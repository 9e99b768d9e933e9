import TwoHop.Fault

namespace TwoHop

/-- A condition that ends the exchange at hand without an answer. -/
inductive Crash
  | frameBody (length : Nat)
  | headerCount (count : Nat)
  deriving DecidableEq, Repr

def Crash.text : Crash → String
  | .frameBody n => s!"frame body length {n} outside 1..=8388608"
  | .headerCount n => s!"header count {n} above 24576"

namespace Frame

def magic : Nat := 0xDEADBEEF

def headerSize : Nat := 8

def maxBody : Nat := 8388608

def Legal (n : Nat) : Prop := 1 ≤ n ∧ n ≤ maxBody

instance (n : Nat) : Decidable (Legal n) := inferInstanceAs (Decidable (_ ∧ _))

def size (n : Nat) : Nat := headerSize + n

def header (n : Nat) : ByteArray := Bytes.bigEndian 4 magic ++ Bytes.bigEndian 4 n

def encode (body : ByteArray) : Except Crash ByteArray :=
  if Legal body.size then .ok (header body.size ++ body) else .error (.frameBody body.size)

def parseHeader (b : ByteArray) : Except FrameFault Nat :=
  if b.size < headerSize then .error (.shortHeader b.size)
  else
    let found := Bytes.toNat (b.extract 0 4)
    let length := Bytes.toNat (b.extract 4 8)
    if found ≠ magic then .error (.badMagic found)
    else if Legal length then .ok length
    else .error (.illegalLength length)

@[simp] theorem size_header (n : Nat) : (header n).size = headerSize := by
  simp [header, headerSize, ByteArray.size_append]

theorem encode_eq_ok_iff {body frame : ByteArray} :
    encode body = .ok frame ↔ Legal body.size ∧ frame = header body.size ++ body := by
  unfold encode
  split <;> simp_all [eq_comm]

end Frame

end TwoHop
