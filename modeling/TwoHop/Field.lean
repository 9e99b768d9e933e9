import TwoHop.Fault

/-! Tagged fields: one byte of tag, four of length, and the value. A message is a sequence of
them, read in order. -/

namespace TwoHop

structure Field where
  tag : UInt8
  value : ByteArray
  deriving DecidableEq

namespace Field

def headSize : Nat := 5

def encode (f : Field) : ByteArray :=
  ByteArray.empty.push f.tag ++ Bytes.bigEndian 4 f.value.size ++ f.value

def encodeAll (fs : List Field) : ByteArray := fs.foldl (fun b f => b ++ f.encode) .empty

def ofText (tag : UInt8) (s : String) : Field := ⟨tag, s.toUTF8⟩

def ofNat (tag : UInt8) (width n : Nat) : Field := ⟨tag, Bytes.bigEndian width n⟩

structure Step (b : ByteArray) (i : Nat) where
  field : Field
  next : Nat
  lt_next : i < next
  next_le : next ≤ b.size

def next? (b : ByteArray) (i : Nat) : Except DecodeFault (Option (Step b i)) :=
  if b.size ≤ i then .ok none
  else if b.size < i + headSize then .error .fieldHeader
  else
    let tag := b.data[i]?.getD 0
    let length := Bytes.toNat (b.extract (i + 1) (i + headSize))
    if h : i + headSize + length ≤ b.size then
      .ok (some ⟨⟨tag, b.extract (i + headSize) (i + headSize + length)⟩, i + headSize + length,
        by simp only [headSize]; omega, h⟩)
    else .error (.fieldTruncated tag (b.size - (i + headSize)) length)

structure Reader where
  bytes : ByteArray
  place : Nat := 0

def Reader.next (r : Reader) : Option (Except DecodeFault Field) × Reader :=
  match next? r.bytes r.place with
  | .error e => (some (.error e), { r with place := r.bytes.size })
  | .ok none => (none, r)
  | .ok (some f) => (some (.ok f.field), { r with place := f.next })

def foldFrom {σ : Type} (step : σ → Field → Except DecodeFault σ) (b : ByteArray) (i : Nat) (s : σ) :
    Except DecodeFault σ :=
  match next? b i with
  | .error e => .error e
  | .ok none => .ok s
  | .ok (some f) =>
    match step s f.field with
    | .error e => .error e
    | .ok s => foldFrom step b f.next s
termination_by b.size - i
decreasing_by have := f.lt_next; have := f.next_le; omega

def fold {σ : Type} (step : σ → Field → Except DecodeFault σ) (b : ByteArray) (s : σ) :
    Except DecodeFault σ := foldFrom step b 0 s

def text (f : Field) : Except DecodeFault String :=
  match String.fromUTF8? f.value with
  | some s => .ok s
  | none => .error (.fieldNotText f.tag)

def nat (f : Field) (width : Nat) : Except DecodeFault Nat :=
  if f.value.size = width then .ok (Bytes.toNat f.value)
  else .error (.fieldWidth f.tag f.value.size width)

end Field

def Required.get {α : Type} (field : Required) : Option α → Except DecodeFault α
  | some a => .ok a
  | none => .error (.missing field)

end TwoHop
