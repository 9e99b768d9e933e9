import TwoHop.Text.Ascii
import TwoHop.Text.Blank
import TwoHop.Text.Split

namespace TwoHop

inductive TargetFault
  | emptyHost
  | noHostIn (authority : String)
  | unclosed (authority : String)
  | malformed (authority : String)
  | badPort (text : String)
  deriving DecidableEq, Repr

def TargetFault.text : TargetFault → String
  | .emptyHost => "Empty host"
  | .noHostIn a => "Empty host in " ++ a
  | .unclosed a => "Unterminated IPv6 literal: " ++ a
  | .malformed a => "Invalid authority: " ++ a
  | .badPort p => "Invalid port: " ++ p

structure Target where
  host : String
  port : UInt16
  deriving DecidableEq, Repr

namespace Target

def defaultPort : UInt16 := 443

def parsePort (cs : List Char) : Except TargetFault UInt16 :=
  match Text.decimal? 65535 cs with
  | some (n + 1) => .ok (n + 1).toUInt16
  | _ => .error (.badPort (.ofList cs))

def parseBracketed (authority : String) (cs : List Char) (port : UInt16) :
    Except TargetFault Target :=
  match Text.splitFirst ']' cs with
  | none => .error (.unclosed authority)
  | some (host, []) => .ok ⟨.ofList host, port⟩
  | some (host, ':' :: tail) => do return ⟨.ofList host, ← parsePort tail⟩
  | some _ => .error (.malformed authority)

/-- Several colons without brackets are a bare IPv6 address. -/
def parse (authority : String) (port : UInt16) : Except TargetFault Target :=
  let cs := Text.trimList authority.toList
  let authority := String.ofList cs
  match cs with
  | [] => .error .emptyHost
  | '[' :: rest => parseBracketed authority rest port
  | cs => match Text.splitLast ':' cs with
    | none => .ok ⟨authority, port⟩
    | some (host, tail) =>
      if host.contains ':' then .ok ⟨authority, port⟩
      else if host.isEmpty then .error (.noHostIn authority)
      else do return ⟨.ofList host, ← parsePort tail⟩

def text (t : Target) : String :=
  if t.host.toList.contains ':' then s!"[{t.host}]:{t.port}" else s!"{t.host}:{t.port}"

end Target

end TwoHop
