import TwoHop.Headers

/-! The tunnel leg's messages: a signed request for a connection to a target, and the verdict on
it. -/

namespace TwoHop

structure Token where
  secretId : String := ""
  timestamp : Int64 := 0
  nonce : ByteArray := .empty
  signature : ByteArray := .empty
  deriving DecidableEq

namespace Token

def fields (t : Token) : List Field :=
  [.ofText 1 t.secretId, .ofNat 2 8 t.timestamp.toUInt64.toNat, ⟨3, t.nonce⟩, ⟨4, t.signature⟩]

def encode (t : Token) : ByteArray := Field.encodeAll t.fields

def takeField (t : Token) (f : Field) : Except DecodeFault Token :=
  match f.tag with
  | 1 => do return { t with secretId := ← f.text }
  | 2 => do return { t with timestamp := (← f.nat 8).toUInt64.toInt64 }
  | 3 => .ok { t with nonce := f.value }
  | 4 => .ok { t with signature := f.value }
  | _ => .ok t

def decode (b : ByteArray) : Except DecodeFault Token := Field.fold takeField b {}

end Token

structure TunnelRequest where
  host : String
  port : UInt16
  headers : Headers
  token : Option Token := none
  deriving DecidableEq

namespace TunnelRequest

def fields (r : TunnelRequest) : List Field :=
  [.ofText 1 r.host, .ofNat 2 2 r.port.toNat, ⟨3, r.headers.encode⟩] ++
    (r.token.map fun t => ⟨4, t.encode⟩).toList

def encode (r : TunnelRequest) : ByteArray := Field.encodeAll r.fields

structure Seen where
  host : Option String := none
  port : Option UInt16 := none
  headers : Headers := .empty
  token : Option Token := none

def takeField (s : Seen) (f : Field) : Except DecodeFault Seen :=
  match f.tag with
  | 1 => do return { s with host := some (← f.text) }
  | 2 => do return { s with port := some (← f.nat 2).toUInt16 }
  | 3 => do return { s with headers := ← Headers.decode f.value }
  | 4 => do return { s with token := some (← Token.decode f.value) }
  | _ => .ok s

def decode (b : ByteArray) : Except DecodeFault TunnelRequest := do
  let s ← Field.fold takeField b {}
  return {
    host := ← Required.connectHost.get s.host
    port := ← Required.connectPort.get s.port
    headers := s.headers
    token := s.token }

end TunnelRequest

/-- The answer to a tunnel request: code 200 turns the connection into a tunnel. -/
structure Verdict where
  code : UInt16
  message : Option String := none
  deriving DecidableEq

namespace Verdict

def ok : Verdict := { code := 200 }

def refused (code : UInt16) (message : String) : Verdict := ⟨code, some message⟩

def isOk (v : Verdict) : Bool := v.code == 200

def fields (v : Verdict) : List Field :=
  .ofNat 1 2 v.code.toNat :: (v.message.map (.ofText 2)).toList

def encode (v : Verdict) : ByteArray := Field.encodeAll v.fields

structure Seen where
  code : Option UInt16 := none
  message : Option String := none

def takeField (s : Seen) (f : Field) : Except DecodeFault Seen :=
  match f.tag with
  | 1 => do return { s with code := some (← f.nat 2).toUInt16 }
  | 2 => do return { s with message := some (← f.text) }
  | _ => .ok s

def decode (b : ByteArray) : Except DecodeFault Verdict := do
  let s ← Field.fold takeField b {}
  return { code := ← Required.resultCode.get s.code, message := s.message }

end Verdict

end TwoHop
