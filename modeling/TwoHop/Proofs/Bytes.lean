import Mathlib.Data.List.Induction
import Mathlib.Tactic.Common
import TwoHop.Bytes

namespace TwoHop.Proofs.Bytes

open TwoHop.Bytes

def join (pieces : List ByteArray) : ByteArray := pieces.foldr (· ++ ·) .empty

@[simp] lemma join_nil : join [] = .empty := rfl

@[simp] lemma join_cons (b : ByteArray) (bs : List ByteArray) : join (b :: bs) = b ++ join bs := rfl

@[simp] lemma join_append (as bs : List ByteArray) : join (as ++ bs) = join as ++ join bs := by
  induction as with
  | nil => simp
  | cons a as ih => simp [ih, ByteArray.append_assoc]

lemma join_concat (bs : List ByteArray) (b : ByteArray) : join (bs ++ [b]) = join bs ++ b := by
  simp

lemma foldl_append_eq_join (bs : List ByteArray) (b : ByteArray) :
    bs.foldl (· ++ ·) b = b ++ join bs := by
  induction bs generalizing b with
  | nil => simp
  | cons c cs ih => rw [List.foldl_cons, ih, join_cons, ByteArray.append_assoc]

def Begins (b a : ByteArray) : Prop := ∃ rest, b = a ++ rest

lemma begins_refl (b : ByteArray) : Begins b b := ⟨.empty, by simp⟩

lemma begins_append (a b : ByteArray) : Begins (a ++ b) a := ⟨b, rfl⟩

lemma Begins.trans {a b c : ByteArray} (hcb : Begins c b) (hba : Begins b a) : Begins c a := by
  obtain ⟨more, rfl⟩ := hcb
  obtain ⟨rest, rfl⟩ := hba
  exact ⟨rest ++ more, ByteArray.append_assoc⟩

lemma Begins.append_left {a b : ByteArray} (h : Begins b a) (c : ByteArray) :
    Begins (c ++ b) (c ++ a) := by
  obtain ⟨rest, rfl⟩ := h
  exact ⟨rest, ByteArray.append_assoc.symm⟩

lemma eq_empty_of_isEmpty {b : ByteArray} (h : b.isEmpty = true) : b = .empty := by
  simpa [ByteArray.isEmpty] using h

lemma size_pos_of_not_isEmpty {b : ByteArray} (h : ¬ b.isEmpty = true) : 0 < b.size := by
  simp only [ByteArray.isEmpty, beq_iff_eq] at h
  omega

lemma extract_append_rejoin {b : ByteArray} {n : Nat} (h : n ≤ b.size) :
    b.extract 0 n ++ b.extract n b.size = b := by
  rw [← ByteArray.extract_eq_extract_append_extract n (Nat.zero_le _) h,
    ByteArray.extract_zero_size]

lemma extract_to_end {b : ByteArray} {i j : Nat} (h : b.size ≤ j) :
    b.extract i j = b.extract i b.size := by
  apply ByteArray.ext
  rw [ByteArray.data_extract, ByteArray.data_extract, Array.extract_eq_extract_right]
  simp only [ByteArray.size_data]
  omega

lemma extract_append_within {a : ByteArray} (b : ByteArray) {i j : Nat} (h : j ≤ a.size) :
    (a ++ b).extract i j = a.extract i j := by
  have hnone : b.extract (i - a.size) (j - a.size) = .empty := by
    rw [ByteArray.extract_eq_empty_iff]
    omega
  rw [ByteArray.extract_append, hnone, ByteArray.append_empty]

lemma extract_append_rest {a : ByteArray} (b : ByteArray) {i : Nat} (h : i ≤ a.size) :
    (a ++ b).extract i (a ++ b).size = a.extract i a.size ++ b := by
  have hsize : a.size ≤ (a ++ b).size := by
    rw [ByteArray.size_append]
    omega
  have hb : b.extract (i - a.size) ((a ++ b).size - a.size) = b := by
    rw [show i - a.size = 0 by omega, ByteArray.size_append, Nat.add_sub_cancel_left,
      ByteArray.extract_zero_size]
  rw [ByteArray.extract_append, extract_to_end hsize, hb]

lemma extract_middle (a b c : ByteArray) {i j : Nat} (hi : i = a.size) (hj : j = a.size + b.size) :
    (a ++ (b ++ c)).extract i j = b := by
  have h : (a ++ (b ++ c)).extract (a.size + 0) (a.size + b.size) = b := by
    rw [ByteArray.extract_append_size_add, ByteArray.extract_append_eq_left rfl]
  rw [hi, hj]
  exact h

lemma append_inj {a b c d : ByteArray} (h : a ++ b = c ++ d) (hs : a.size = c.size) :
    a = c ∧ b = d := by
  have ha : a = c := by
    have hfront := congrArg (fun x : ByteArray => x.extract 0 a.size) h
    rwa [ByteArray.extract_append_eq_left rfl, ByteArray.extract_append_eq_left hs] at hfront
  subst ha
  exact ⟨rfl, (ByteArray.append_right_inj a).mp h⟩

lemma bigEndian_toNat_toByteArray (l : List UInt8) :
    bigEndian l.length (toNat l.toByteArray) = l.toByteArray := by
  induction l using List.reverseRecOn with
  | nil => rfl
  | append_singleton l x ih =>
    have hpush : (l ++ [x]).toByteArray = l.toByteArray.push x := by
      rw [List.toByteArray_append, ← ByteArray.append_toByteArray_singleton]
    have hx : x.toNat < 256 := x.toNat_lt
    have hdiv : (toNat l.toByteArray * 256 + x.toNat) / 256 = toNat l.toByteArray := by omega
    have hlast : (toNat l.toByteArray * 256 + x.toNat).toUInt8 = x := by
      apply UInt8.toNat_inj.mp
      simp only [Nat.toUInt8_eq, UInt8.toNat_ofNat']
      omega
    rw [hpush, toNat_push, List.length_append, List.length_singleton, bigEndian, hdiv, hlast, ih]

lemma bigEndian_toNat {b : ByteArray} {width : Nat} (h : b.size = width) :
    bigEndian width (toNat b) = b := by
  have hb : b.data.toList.toByteArray = b := by
    apply ByteArray.ext
    simp
  have hlen : b.data.toList.length = width := by simpa using h
  simpa only [hb, hlen] using bigEndian_toNat_toByteArray b.data.toList

lemma toNat_lt (b : ByteArray) : toNat b < Nat.pow 256 b.size := by
  rw [← bigEndian_toNat (b := b) rfl, toNat_bigEndian, size_bigEndian]
  exact Nat.mod_lt _ (Nat.pow_pos (by decide))

end TwoHop.Proofs.Bytes
