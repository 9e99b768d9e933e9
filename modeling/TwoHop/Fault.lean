import TwoHop.Bytes
import TwoHop.Fault.Io
import TwoHop.Status
import TwoHop.Uri

namespace TwoHop

inductive FrameFault
  | shortHeader (size : Nat)
  | badMagic (found : Nat)
  | illegalLength (length : Nat)
  | afterDone
  | afterFailed
  | requestSilence
  | other (text : String)
  deriving DecidableEq, Repr

inductive Required
  | requestMethod | requestUri | responseStatus | connectHost | connectPort | resultCode
  deriving DecidableEq, Repr

def Required.text : Required → String
  | .requestMethod => "Request is missing method"
  | .requestUri => "Request is missing absolute_uri"
  | .responseStatus => "Response is missing status_code"
  | .connectHost => "ConnectRequest is missing host"
  | .connectPort => "ConnectRequest is missing port"
  | .resultCode => "ConnectResult is missing code"

inductive DecodeFault
  | fieldHeader
  | fieldTruncated (tag : UInt8) (found announced : Nat)
  | fieldNotText (tag : UInt8)
  | fieldWidth (tag : UInt8) (found expected : Nat)
  | missing (field : Required)
  | unknownVersion (version : UInt8)
  | invalidMethod (shown : String)
  | invalidUri (text : String) (fault : UriFault)
  | invalidStatus (code : UInt16)
  | other (text : String)
  deriving DecidableEq, Repr

inductive AuthFault
  | emptyId
  | emptyKey (id : String)
  | other (text : String)
  deriving DecidableEq, Repr

inductive ProtocolFault
  | remoteStatus (status : Status)
  | exchange (target chain : String)
  | other (text : String)
  deriving DecidableEq

inductive Fault
  | frame (fault : FrameFault)
  | prematureEnd (received expected : Nat)
  | auth (fault : AuthFault)
  | connect (address : String) (error : IoError)
  | timeout (target : String)
  | protocol (fault : ProtocolFault)
  | sinkWrite (error : IoError)
  | decode (fault : DecodeFault)
  | handoverReused
  | io (error : IoError)
  deriving DecidableEq

def hex8 (n : Nat) : String :=
  let ds := Nat.toDigits 16 n
  .ofList (List.replicate (8 - ds.length) '0' ++ ds)

def FrameFault.text : FrameFault → String
  | .shortHeader n => s!"Header too short: {n} < 8"
  | .badMagic m => "Bad magic: 0x" ++ hex8 m
  | .illegalLength n => s!"Illegal body length: {n} (allowed 1..=8388608)"
  | .afterDone => "Scanner is already Done"
  | .afterFailed => "Scanner is already Failed"
  | .requestSilence => "Timed out waiting for the tunnel request"
  | .other t => t

def DecodeFault.text : DecodeFault → String
  | .fieldHeader => "Truncated field header"
  | .fieldTruncated tag found announced => s!"Field {tag} truncated: {found} < {announced}"
  | .fieldNotText tag => s!"Field {tag} is not valid UTF-8"
  | .fieldWidth tag found expected => s!"Field {tag} has width {found}, expected {expected}"
  | .missing field => field.text
  | .unknownVersion v => s!"Unknown HTTP version: {v}"
  | .invalidMethod shown => "Invalid method: " ++ shown
  | .invalidUri t fault => s!"Invalid URI {t}: {fault.text}"
  | .invalidStatus code => s!"Invalid status code {code}"
  | .other t => t

def AuthFault.text : AuthFault → String
  | .emptyId => "Empty secret id"
  | .emptyKey id => s!"Empty secret key for secret id '{id}'"
  | .other t => t

def ProtocolFault.text : ProtocolFault → String
  | .remoteStatus s => "Remote agent replied " ++ s.text
  | .exchange target chain => s!"{target}: {chain}"
  | .other t => t

def occursIn (needle : List Char) : List Char → Bool
  | [] => needle.isEmpty
  | c :: cs => needle.isPrefixOf (c :: cs) || occursIn needle cs

theorem occursIn_iff {needle hay : List Char} : occursIn needle hay = true ↔ needle <:+: hay := by
  induction hay with
  | nil => rw [occursIn, List.isEmpty_iff, List.infix_nil]
  | cons c cs ih =>
    rw [occursIn, Bool.or_eq_true, ih, List.isPrefixOf_iff_prefix, List.infix_cons_iff]

def appendCause (shown cause : String) : String :=
  if occursIn cause.toList shown.toList then shown else shown ++ ": " ++ cause

def renderChain (top : String) (causes : List String) : String := causes.foldl appendCause top

namespace Fault

def text : Fault → String
  | .frame f => "Frame error: " ++ f.text
  | .prematureEnd received expected => s!"Stream ended after {received} of {expected} frame bytes"
  | .auth f => "Proxy authentication failed: " ++ f.text
  | .connect address e => s!"Failed to connect to upstream {address}: {e.text}"
  | .timeout target => s!"Upstream {target} timed out"
  | .protocol f => "Upstream protocol error: " ++ f.text
  | .sinkWrite e => "Sink write failed: " ++ e.text
  | .decode f => "Envelope decode error: " ++ f.text
  | .handoverReused => "Continuation already consumed"
  | .io e => "IO error: " ++ e.text

def causes : Fault → List String
  | .connect _ e | .sinkWrite e | .io e => e.text :: e.causes
  | _ => []

def detail (f : Fault) : String := renderChain f.text f.causes

def status : Fault → Status
  | .auth _ => .authenticationRequired
  | .timeout _ => .gatewayTimeout
  | _ => .badGateway

end Fault

inductive ExchangeCause
  | elapsed (text : String)
  | io (error : IoKind) (text : String)
  | other (text : String)
  deriving DecidableEq, Repr

def ExchangeCause.text : ExchangeCause → String
  | .elapsed t | .io _ t | .other t => t

structure ExchangeError where
  isConnect : Bool
  text : String
  causes : List ExchangeCause
  deriving DecidableEq, Repr

namespace ExchangeError

def chain (e : ExchangeError) : String := renderChain e.text (e.causes.map (·.text))

/-- The kind of the deepest input or output error among the causes, `kind` if there is none. The
first time-out ends the search without one. -/
def kindBehind? (kind : IoKind) : List ExchangeCause → Option IoKind
  | [] => some kind
  | .elapsed _ :: _ => none
  | .io found _ :: causes => if found = .timedOut then none else kindBehind? found causes
  | .other _ :: causes => kindBehind? kind causes

def toFault (target : String) (e : ExchangeError) : Fault :=
  if !e.isConnect then .protocol (.exchange target e.chain)
  else match kindBehind? .other e.causes with
    | none => .timeout target
    | some kind => .connect target ⟨kind, e.chain, []⟩

end ExchangeError

end TwoHop
