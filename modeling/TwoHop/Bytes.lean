namespace TwoHop.Bytes

instance decidableEq : DecidableEq ByteArray := fun a b => decidable_of_iff (a.data = b.data) ByteArray.ext_iff.symm

def bigEndian : Nat → Nat → ByteArray
  | 0, _ => .empty
  | width + 1, n => (bigEndian width (n / 256)).push n.toUInt8

def littleEndian : Nat → Nat → ByteArray
  | 0, _ => .empty
  | width + 1, n => ByteArray.empty.push n.toUInt8 ++ littleEndian width (n / 256)

def toNat (b : ByteArray) : Nat :=
  b.data.foldl (fun a x => a * 256 + x.toNat) 0

@[simp] theorem size_bigEndian (width n : Nat) : (bigEndian width n).size = width := by
  induction width generalizing n with
  | zero => rfl
  | succ w ih => simp [bigEndian, ih, ByteArray.size_push]

@[simp] theorem size_littleEndian (width n : Nat) : (littleEndian width n).size = width := by
  induction width generalizing n with
  | zero => rfl
  | succ w ih => simp [littleEndian, ih, ByteArray.size_append, ByteArray.size_push]; omega

theorem toNat_push (b : ByteArray) (x : UInt8) : toNat (b.push x) = toNat b * 256 + x.toNat := by
  simp [toNat, ByteArray.data_push]

theorem toNat_bigEndian (width n : Nat) : toNat (bigEndian width n) = n % Nat.pow 256 width := by
  induction width generalizing n with
  | zero => simp [bigEndian, toNat, Nat.mod_one]
  | succ w ih =>
    rw [bigEndian, toNat_push, ih]
    change _ = n % (Nat.pow 256 w * 256)
    rw [Nat.mul_comm (Nat.pow 256 w), Nat.mod_mul]
    simp only [Nat.toUInt8_eq, UInt8.toNat_ofNat']
    omega

theorem toNat_bigEndian_of_lt {width n : Nat} (h : n < Nat.pow 256 width) :
    toNat (bigEndian width n) = n := by
  rw [toNat_bigEndian, Nat.mod_eq_of_lt h]

def byteAt (b : ByteArray) (i : Nat) : Nat := (b.data[i]?.map UInt8.toNat).getD 0

def mayFollow (first x : Nat) : Bool :=
  if first == 0xE0 then 0xA0 ≤ x && x ≤ 0xBF
  else if first == 0xED then 0x80 ≤ x && x ≤ 0x9F
  else if first == 0xF0 then 0x90 ≤ x && x ≤ 0xBF
  else if first == 0xF4 then 0x80 ≤ x && x ≤ 0x8F
  else 0xE1 ≤ first && first ≤ 0xF3 && 0x80 ≤ x && x ≤ 0xBF

/-- How many bytes of the ill-formed sequence at `i` one replacement character stands for: the
first byte with all that follow it and could still begin a character. -/
def badLength (b : ByteArray) (i : Nat) : Nat :=
  if !mayFollow (byteAt b i) (byteAt b (i + 1)) then 1
  else if 0xF0 ≤ byteAt b i ∧ 0x80 ≤ byteAt b (i + 2) ∧ byteAt b (i + 2) ≤ 0xBF then 3
  else 2

theorem badLength_pos (b : ByteArray) (i : Nat) : 0 < badLength b i := by
  unfold badLength
  split
  · exact Nat.one_pos
  · split <;> simp

def lossyFrom (b : ByteArray) (i : Nat) (acc : String) : String :=
  if i < b.size then
    match b.utf8DecodeChar? i with
    | some c => lossyFrom b (i + c.utf8Size) (acc.push c)
    | none => lossyFrom b (i + badLength b i) (acc.push '\uFFFD')
  else acc
termination_by b.size - i
decreasing_by
  · have := c.utf8Size_pos; omega
  · have := badLength_pos b i; omega

def lossyText (b : ByteArray) : String := lossyFrom b 0 ""

end TwoHop.Bytes
