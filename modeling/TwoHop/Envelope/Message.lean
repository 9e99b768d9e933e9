import TwoHop.Headers

/-! The plain leg's messages: a request in absolute form, and the response to it. -/

namespace TwoHop

structure Method where
  text : String
  isToken : Text.isToken text = true
  deriving DecidableEq

namespace Method

def ofText? (s : String) : Option Method :=
  if h : Text.isToken s = true then some ⟨s, h⟩ else none

def connect : Method := ⟨"CONNECT", by decide⟩

def post : Method := ⟨"POST", by decide⟩

def head : Method := ⟨"HEAD", by decide⟩

end Method

inductive Version
  | http10 | http11 | http2
  deriving DecidableEq, Repr, Inhabited

namespace Version

def code : Version → UInt8
  | .http10 => 1
  | .http11 => 2
  | .http2 => 3

def ofCode? : UInt8 → Option Version
  | 1 => some .http10
  | 2 => some .http11
  | 3 => some .http2
  | _ => none

def ofNumber (major minor : Nat) : Version :=
  if major = 0 ∨ (major = 1 ∧ minor = 0) then .http10
  else if major ≥ 2 then .http2
  else .http11

theorem ofCode?_code (v : Version) : ofCode? v.code = some v := by cases v <;> rfl

end Version

structure Request where
  method : Method
  absoluteUri : String
  scheme : String := "http"
  version : Version := .http11
  headers : Headers
  deriving DecidableEq

namespace Request

def fields (r : Request) : List Field :=
  [.ofText 1 r.method.text, .ofText 2 r.absoluteUri, .ofText 3 r.scheme, .ofNat 4 1 r.version.code.toNat,
    ⟨5, r.headers.encode⟩]

def encode (r : Request) : ByteArray := Field.encodeAll r.fields

structure Seen where
  method : Option Method := none
  absoluteUri : Option String := none
  scheme : String := "http"
  version : Version := .http11
  headers : Headers := .empty

def readMethod (f : Field) : Except DecodeFault Method :=
  match (String.fromUTF8? f.value).bind Method.ofText? with
  | some m => .ok m
  | none => .error (.invalidMethod (Bytes.lossyText f.value))

def readVersion (f : Field) : Except DecodeFault Version := do
  let n ← f.nat 1
  match Version.ofCode? n.toUInt8 with
  | some v => return v
  | none => throw (.unknownVersion n.toUInt8)

def takeField (s : Seen) (f : Field) : Except DecodeFault Seen :=
  match f.tag with
  | 1 => do return { s with method := some (← readMethod f) }
  | 2 => do return { s with absoluteUri := some (← f.text) }
  | 3 => do return { s with scheme := ← f.text }
  | 4 => do return { s with version := ← readVersion f }
  | 5 => do return { s with headers := ← Headers.decode f.value }
  | _ => .ok s

def decode (b : ByteArray) : Except DecodeFault Request := do
  let s ← Field.fold takeField b {}
  return {
    method := ← Required.requestMethod.get s.method
    absoluteUri := ← Required.requestUri.get s.absoluteUri
    scheme := s.scheme
    version := s.version
    headers := s.headers }

end Request

structure Response where
  statusCode : UInt16
  statusMessage : Option String := none
  headers : Headers
  deriving DecidableEq

namespace Response

def fields (r : Response) : List Field :=
  .ofNat 1 2 r.statusCode.toNat :: ((r.statusMessage.map (.ofText 2)).toList ++ [⟨3, r.headers.encode⟩])

def encode (r : Response) : ByteArray := Field.encodeAll r.fields

structure Seen where
  statusCode : Option UInt16 := none
  statusMessage : Option String := none
  headers : Headers := .empty

def takeField (s : Seen) (f : Field) : Except DecodeFault Seen :=
  match f.tag with
  | 1 => do return { s with statusCode := some (← f.nat 2).toUInt16 }
  | 2 => do return { s with statusMessage := some (← f.text) }
  | 3 => do return { s with headers := ← Headers.decode f.value }
  | _ => .ok s

def decode (b : ByteArray) : Except DecodeFault Response := do
  let s ← Field.fold takeField b {}
  return {
    statusCode := ← Required.responseStatus.get s.statusCode
    statusMessage := s.statusMessage
    headers := s.headers }

end Response

end TwoHop
