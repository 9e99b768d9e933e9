import TwoHop.Agent.Exchange
import TwoHop.Agent.Setup
import TwoHop.Destination
import TwoHop.Flow.Scan
import TwoHop.Flow.Splice
import TwoHop.ServerName

/-! The local agent. It hands a browser's requests to the remote agent in frames, and joins a
browser to a tunnel once the remote agent has opened one. -/

namespace TwoHop

open TwoHop.Flow

structure Browsed where
  method : Method
  uri : Uri
  version : Version := .http11
  headers : Header.Map := .empty
  body : Source := {}

namespace LocalAgent

def expectsOther (headers : Header.Map) : Bool :=
  (headers.get? "expect").any fun v =>
    !(String.fromUTF8? v).any (Text.sameIgnoringCase · "100-continue")

def envelope (r : Browsed) (absoluteUri : String) : Request where
  method := r.method
  absoluteUri
  scheme := "http"
  version := r.version
  headers := (Headers.ofMap (r.headers.erase "expect")).removeHopByHop

def bodyLength (r : Browsed) : Option UInt64 := (announcedLength r.headers).map Nat.toUInt64

def outboundHeaders (token : Token) (frame : ByteArray) (length : Option UInt64) : Header.Map :=
  let m := (Header.Map.empty.append "content-type" octets.toUTF8).append tokenHeader token.headerText.toUTF8
  match length with
  | some n => m.append "content-length" (decimalBytes (outerLength frame n))
  | none => m

def outbound (a : LocalAgent) (now : Int64) (nonce : ByteArray) (r : Browsed) (absoluteUri : String) :
    Except Crash Outbound := do
  let frame ← Frame.encode (envelope r absoluteUri).encode
  let length := bodyLength r
  return {
    method := .post
    uri := a.remoteUri
    headers := outboundHeaders (a.secret.sign now nonce) frame length
    body := framedBody frame length r.body }

def remoteName (a : LocalAgent) : String := "remote agent " ++ a.remoteUri.text

def ownPhrase? (status : Status) (message : Option String) : Option String := do
  let m ← message
  if m.toUTF8.data.all (fun b => b == 0x09 || (0x20 ≤ b && b ≠ 0x7F)) && some m ≠ status.phrase? then some m
  else none

def unwrap (frame : ByteArray) (rest : Handover) : Except Halt Reply := do
  let r ← orFault ((Response.decode frame).mapError .decode)
  match Status.ofCode? r.statusCode with
  | none => throw (.fault (.decode (.invalidStatus r.statusCode)))
  | some status =>
    let body ← orFault (rest.body {} {}).1
    let headers ← orCrash r.headers.removeHopByHop.toMap
    return { status, phrase := ownPhrase? status r.statusMessage, headers, body }

def conclude (a : LocalAgent) (answer : Answer) : Except Halt Reply := do
  let r ← orFault (answer.get a.remoteName)
  if r.status ≠ .ok then throw (.fault (.protocol (.remoteStatus r.status)))
  match scan r.body with
  | .waits _ => throw .silence
  | .failed f _ => throw (.fault f)
  | .found frame rest => unwrap frame rest

def handleRequest (a : LocalAgent) (now : Int64) (nonce : ByteArray) (r : Browsed)
    (remote : Outbound → Answer) : Served :=
  if expectsOther r.headers then { fate := .replied (.ofText .expectationFailed ""), body := r.body }
  else match Destination.absoluteUri? r.uri r.headers with
    | none => { fate := .replied (.ofText .badRequest "Missing Host header"), body := r.body }
    | some uri => match a.outbound now nonce r uri with
      | .error c => { fate := .crashed c, body := r.body }
      | .ok out => { fate := .ofExcept (a.conclude (remote out)), asked := some out, body := r.body }

def tunnelRequest (a : LocalAgent) (now : Int64) (nonce : ByteArray) (r : Browsed) (t : Target) :
    TunnelRequest where
  host := t.host
  port := t.port
  headers := (Headers.ofMap r.headers).removeHopByHop
  token := some (a.secret.sign now nonce)

/-- Before an encrypted connection is used, the remote agent's name must be one to encrypt for. -/
def checkName (a : LocalAgent) : Except IoError Unit :=
  if a.settings.tls.enabled then (ServerName.parse a.remoteTunnel.host).map fun _ => () else .ok ()

def dialRemote (a : LocalAgent) (dial : String → Dial) : Except Fault Connection := do
  let address := a.remoteTunnel.text
  let c ← (dial address).get address
  a.checkName.mapError (.connect address)
  return c

def verdict (a : LocalAgent) (source : Source) : Except Fault (Verdict × Parts) :=
  match scan source with
  | .waits _ => .error (.timeout ("tunnel reply from " ++ a.remoteTunnel.text))
  | .failed f _ => .error f
  | .found frame rest => do
    let v ← (Verdict.decode frame).mapError .decode
    return (v, ← rest.take.1)

def refusal (v : Verdict) : Reply :=
  .ofText ((Status.ofCode? v.code).getD .badGateway) (v.message.getD "")

structure TunnelServed where
  fate : Fate
  asked : Option TunnelRequest := none
  opened : Option (Outlet × Parts) := none

def ask (a : LocalAgent) (r : TunnelRequest) (dial : String → Dial) :
    Except Halt (Verdict × Outlet × Parts) := do
  let c ← orFault (a.dialRemote dial)
  let frame ← orCrash (Frame.encode r.encode)
  match Sink.writeAll c.sink frame with
  | (.all, sink) =>
    let (flushed, sink) := Sink.flush sink
    orFault (flushed.mapError .io)
    let (v, parts) ← orFault (a.verdict c.source)
    return (v, sink, parts)
  | (.failed e, _) => throw (.fault (.io e))
  | _ => throw .silence

def handleConnect (a : LocalAgent) (now : Int64) (nonce : ByteArray) (r : Browsed) (dial : String → Dial) :
    TunnelServed :=
  match Destination.tunnelTarget? r.uri r.headers with
  | none => { fate := .replied (.ofText .badRequest "Missing CONNECT target") }
  | some t =>
    let request := a.tunnelRequest now nonce r t
    match a.ask request dial with
    | .error h => { fate := .ofExcept (.error h), asked := some request }
    | .ok (v, sink, parts) =>
      if v.isOk then { fate := .replied { status := .ok }, asked := some request, opened := some (sink, parts) }
      else { fate := .replied (refusal v), asked := some request }

def join (opened : Outlet × Parts) (browser : Connection) : Splice :=
  .start opened.2.source opened.1 browser.source browser.sink opened.2.remaining {} {}

end LocalAgent

end TwoHop
