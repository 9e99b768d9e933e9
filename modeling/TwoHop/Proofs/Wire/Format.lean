import TwoHop.Envelope.Message
import TwoHop.Envelope.Tunnel
import TwoHop.Proofs.Wire.Fields

/-! The format of each message: which tags it knows, what may stand under each of them, and which it
cannot do without. -/

namespace TwoHop.Proofs.Wire.Format

open TwoHop.Field TwoHop.Header
open Fields

inductive Kind
  | request | response | tunnelRequest | verdict | token | headers | pair

namespace Kind

def Value : Kind → Type
  | request => Request
  | response => Response
  | tunnelRequest => TunnelRequest
  | verdict => Verdict
  | token => Token
  | headers => Headers
  | pair => Option String × String

def fields : (k : Kind) → k.Value → List Field
  | request, r => Request.fields r
  | response, r => Response.fields r
  | tunnelRequest, r => TunnelRequest.fields r
  | verdict, v => Verdict.fields v
  | token, t => Token.fields t
  | headers, h => Headers.fields h
  | pair, (name, value) => (name.map (.ofText 1)).toList ++ [.ofText 2 value]

def encode : (k : Kind) → k.Value → ByteArray
  | request, r => Request.encode r
  | response, r => Response.encode r
  | tunnelRequest, r => TunnelRequest.encode r
  | verdict, v => Verdict.encode v
  | token, t => Token.encode t
  | headers, h => Headers.encode h
  | pair, p => encodeAll (fields pair p)

def decode : (k : Kind) → ByteArray → Except DecodeFault k.Value
  | request => Request.decode
  | response => Response.decode
  | tunnelRequest => TunnelRequest.decode
  | verdict => Verdict.decode
  | token => Token.decode
  | headers => Headers.decode
  | pair => fun b => fold Headers.takePairField b (none, "")

end Kind

inductive Shape
  | text
  | method
  | version
  | number (width : Nat)
  | bytes
  | message (kind : Kind)

structure Column where
  tag : UInt8
  shape : Shape
  required : Bool := false

def Kind.columns : Kind → List Column
  | request => [⟨1, .method, true⟩, ⟨2, .text, true⟩, ⟨3, .text, false⟩, ⟨4, .version, false⟩,
      ⟨5, .message headers, false⟩]
  | response => [⟨1, .number 2, true⟩, ⟨2, .text, false⟩, ⟨3, .message headers, false⟩]
  | tunnelRequest => [⟨1, .text, true⟩, ⟨2, .number 2, true⟩, ⟨3, .message headers, false⟩,
      ⟨4, .message token, false⟩]
  | verdict => [⟨1, .number 2, true⟩, ⟨2, .text, false⟩]
  | token => [⟨1, .text, false⟩, ⟨2, .number 8, false⟩, ⟨3, .bytes, false⟩, ⟨4, .bytes, false⟩]
  | headers => (List.finRange 30).map (fun s => ⟨Slot.tag s, .text, false⟩) ++
      [⟨undeclaredTag, .message pair, false⟩]
  | pair => [⟨1, .text, false⟩, ⟨2, .text, false⟩]

/-- The bytes have this shape. A message is made of fields only; every field of a known tag, also
one that a later field overrules, has the shape of its column, and no required field is missing. -/
inductive Holds : Shape → ByteArray → Prop
  | text (s : String) : Holds .text s.toUTF8
  | method (m : Method) : Holds .method m.text.toUTF8
  | version (v : Version) : Holds .version (Bytes.bigEndian 1 v.code.toNat)
  | number {b : ByteArray} {width : Nat} : b.size = width → Holds (.number width) b
  | bytes (b : ByteArray) : Holds .bytes b
  | message {k : Kind} {b : ByteArray} {fs : List Field} : Cut b fs →
      (∀ f ∈ fs, ∀ c ∈ k.columns, c.tag = f.tag → Holds c.shape f.value) →
      (∀ c ∈ k.columns, c.required = true → ∃ f ∈ fs, f.tag = c.tag) → Holds (.message k) b

def Unknown (k : Kind) (tag : UInt8) : Prop := ∀ c ∈ k.columns, c.tag ≠ tag

/-- The bytes differ only in fields with unknown tags, put in or left out anywhere, at this level or
inside a message within the message. -/
inductive Pads : Kind → ByteArray → ByteArray → Prop
  | refl (k : Kind) (b : ByteArray) : Pads k b b
  | symm {k : Kind} {b c : ByteArray} : Pads k b c → Pads k c b
  | trans {k : Kind} {a b c : ByteArray} : Pads k a b → Pads k b c → Pads k a c
  | insert {k : Kind} {before after : List Field} {f : Field} :
      (∀ g ∈ before ++ f :: after, Fits g) → Unknown k f.tag →
      Pads k (encodeAll (before ++ after)) (encodeAll (before ++ f :: after))
  | inside {k j : Kind} {c : Column} {before after : List Field} {v w : ByteArray} :
      (∀ g ∈ before ++ ⟨c.tag, v⟩ :: ⟨c.tag, w⟩ :: after, Fits g) →
      c ∈ k.columns → c.shape = .message j → Pads j v w →
      Pads k (encodeAll (before ++ ⟨c.tag, v⟩ :: after)) (encodeAll (before ++ ⟨c.tag, w⟩ :: after))

def first (tag : UInt8) (fs : List Field) : Option ByteArray :=
  (fs.find? fun f => f.tag = tag).map (·.value)

def last (tag : UInt8) (fs : List Field) : Option ByteArray := first tag fs.reverse

def Tells {α : Type} (means : ByteArray → α → Prop) (default : α) : Option ByteArray → α → Prop
  | some b, a => means b a
  | none, a => a = default

def IsText (b : ByteArray) (s : String) : Prop := b = s.toUTF8

def IsMethod (b : ByteArray) (m : Method) : Prop := b = m.text.toUTF8

def IsVersion (b : ByteArray) (v : Version) : Prop := b = Bytes.bigEndian 1 v.code.toNat

def IsUInt16 (b : ByteArray) (n : UInt16) : Prop := b = Bytes.bigEndian 2 n.toNat

def IsInt64 (b : ByteArray) (n : Int64) : Prop := b = Bytes.bigEndian 8 n.toUInt64.toNat

def IsMessage (k : Kind) (b : ByteArray) (v : k.Value) : Prop := k.decode b = .ok v

def Given {α : Type} (means : ByteArray → α → Prop) (b : ByteArray) (a : Option α) : Prop :=
  ∃ x, a = some x ∧ means b x

inductive Surplus : List Field → List (String × String) → Prop
  | nil : Surplus [] []
  | slot {fs : List Field} {pairs : List (String × String)} {s : Slot} {value : String} :
      Surplus fs pairs → first s.tag fs = none → Surplus (fs ++ [.ofText s.tag value]) pairs
  | repeated {fs : List Field} {pairs : List (String × String)} {s : Slot} {value : String} :
      Surplus fs pairs → first s.tag fs ≠ none →
      Surplus (fs ++ [.ofText s.tag value]) (pairs ++ [(s.name, value)])
  | named {fs : List Field} {pairs : List (String × String)} {b : ByteArray} {name value : String} :
      Surplus fs pairs → IsMessage .pair b (some name, value) →
      Surplus (fs ++ [⟨undeclaredTag, b⟩]) (pairs ++ [(Text.lower name, value)])
  | nameless {fs : List Field} {pairs : List (String × String)} {b : ByteArray} {value : String} :
      Surplus fs pairs → IsMessage .pair b (none, value) →
      Surplus (fs ++ [⟨undeclaredTag, b⟩]) pairs
  | unknown {fs : List Field} {pairs : List (String × String)} {f : Field} :
      Surplus fs pairs → Unknown .headers f.tag → Surplus (fs ++ [f]) pairs

/-- The value that the fields of a message stand for: of a repeated field the last counts. Headers
keep them all, the first in its slot. -/
def Reads : (k : Kind) → List Field → k.Value → Prop
  | .request, fs, r => last 1 fs = some r.method.text.toUTF8 ∧
      last 2 fs = some r.absoluteUri.toUTF8 ∧
      Tells IsText "http" (last 3 fs) r.scheme ∧
      Tells IsVersion .http11 (last 4 fs) r.version ∧
      Tells (IsMessage .headers) .empty (last 5 fs) r.headers
  | .response, fs, r => last 1 fs = some (Bytes.bigEndian 2 r.statusCode.toNat) ∧
      Tells (Given IsText) none (last 2 fs) r.statusMessage ∧
      Tells (IsMessage .headers) .empty (last 3 fs) r.headers
  | .tunnelRequest, fs, r => last 1 fs = some r.host.toUTF8 ∧
      last 2 fs = some (Bytes.bigEndian 2 r.port.toNat) ∧
      Tells (IsMessage .headers) .empty (last 3 fs) r.headers ∧
      Tells (Given (IsMessage .token)) none (last 4 fs) r.token
  | .verdict, fs, v => last 1 fs = some (Bytes.bigEndian 2 v.code.toNat) ∧
      Tells (Given IsText) none (last 2 fs) v.message
  | .token, fs, t => Tells IsText "" (last 1 fs) t.secretId ∧
      Tells IsInt64 0 (last 2 fs) t.timestamp ∧
      Tells Eq .empty (last 3 fs) t.nonce ∧
      Tells Eq .empty (last 4 fs) t.signature
  | .headers, fs, h => (∀ s : Slot, first s.tag fs = (h.slots.get s).map String.toUTF8) ∧
      Surplus fs h.others.toList
  | .pair, fs, p => Tells (Given IsText) none (last 1 fs) p.1 ∧ Tells IsText "" (last 2 fs) p.2

end TwoHop.Proofs.Wire.Format
