import Mathlib.Algebra.Group.Nat.Defs
import TwoHop.Proofs.Token.Spelling

/-! Base64 by its bits: the letters of bytes spell their bits, six at a time, and no other letters
do. -/

namespace TwoHop.Proofs.Token.Bits

open TwoHop.Base64
open Spelling

def bits : Nat → Nat → List Bool
  | 0, _ => []
  | width + 1, n => n.testBit width :: bits width n

def bytesBits (l : List UInt8) : List Bool := l.flatMap fun x => bits 8 x.toNat

/-- Each letter stands for six bits, its place in the alphabet. Together they are the bits of the
bytes, with fewer than six zeros behind them. -/
def Spells (cs : List Char) (b : ByteArray) : Prop :=
  ∃ (places : List Nat) (zeros : Nat), cs.map some = places.map (alphabet[·]?) ∧ zeros < 6 ∧
    places.flatMap (bits 6) = bytesBits b.data.toList ++ List.replicate zeros false

def Padded (cs text : List Char) : Prop :=
  ∃ k < 4, text = cs ++ List.replicate k '=' ∧ 4 ∣ text.length

variable {v w n m : Nat} {vs us : List Nat} {cs ds : List Char} {b c : ByteArray}

@[simp] lemma length_bits (width n : Nat) : (bits width n).length = width := by
  induction width with
  | zero => rfl
  | succ width ih => rw [bits, List.length_cons, ih]

lemma bits_add (v w n : Nat) : bits (v + w) n = bits v (n / 2 ^ w) ++ bits w n := by
  induction v with
  | zero => rw [Nat.zero_add, bits, List.nil_append]
  | succ v ih => rw [Nat.succ_add, bits, bits, ih, Nat.testBit_div_two_pow, List.cons_append]

lemma bits_congr (h : ∀ i < w, n.testBit i = m.testBit i) : bits w n = bits w m := by
  induction w with
  | zero => rfl
  | succ w ih => rw [bits, bits, h w (Nat.lt_succ_self w), ih fun i hi => h i (Nat.lt_succ_of_lt hi)]

lemma bits_mod (w n : Nat) : bits w (n % 2 ^ w) = bits w n := by
  apply bits_congr
  intro i hi
  rw [Nat.testBit_mod_two_pow, decide_eq_true hi, Bool.true_and]

lemma bits_glue (v n : Nat) (hm : m < 2 ^ w) : bits (v + w) (n * 2 ^ w + m) = bits v n ++ bits w m := by
  have hhigh : (n * 2 ^ w + m) / 2 ^ w = n := by
    rw [Nat.mul_comm, Nat.mul_add_div (Nat.two_pow_pos w), Nat.div_eq_of_lt hm, Nat.add_zero]
  rw [bits_add, hhigh, ← bits_mod w (n * 2 ^ w + m), Nat.mul_add_mod_self_right, bits_mod]

lemma testBit_of_bits (h : bits w n = bits w m) : ∀ i < w, n.testBit i = m.testBit i := by
  induction w with
  | zero =>
    intro i hi
    cases hi
  | succ w ih =>
    obtain ⟨htop, hrest⟩ := List.cons.inj h
    intro i hi
    rcases Nat.lt_succ_iff_lt_or_eq.mp hi with hi | rfl
    · exact ih hrest i hi
    · exact htop

lemma bits_inj (hn : n < 2 ^ w) (hm : m < 2 ^ w) (h : bits w n = bits w m) : n = m := by
  apply Nat.eq_of_testBit_eq
  intro i
  by_cases hi : i < w
  · exact testBit_of_bits h i hi
  · have hpow : 2 ^ w ≤ 2 ^ i := Nat.pow_le_pow_right (by decide) (Nat.le_of_not_lt hi)
    rw [Nat.testBit_lt_two_pow (Nat.lt_of_lt_of_le hn hpow),
      Nat.testBit_lt_two_pow (Nat.lt_of_lt_of_le hm hpow)]

lemma length_flatMap_bits (w : Nat) (vs : List Nat) : (vs.flatMap (bits w)).length = vs.length * w := by
  induction vs with
  | nil => simp
  | cons v vs ih =>
    rw [List.flatMap_cons, List.length_append, length_bits, ih, List.length_cons, Nat.succ_mul,
      Nat.add_comm]

lemma length_bytesBits (l : List UInt8) : (bytesBits l).length = l.length * 8 := by
  have hvalues : bytesBits l = (l.map UInt8.toNat).flatMap (bits 8) := by
    rw [bytesBits, List.flatMap_map]
  rw [hvalues, length_flatMap_bits, List.length_map]

lemma flatMap_bits_inj (hvs : ∀ v ∈ vs, v < 2 ^ w) (hus : ∀ u ∈ us, u < 2 ^ w)
    (hlen : vs.length = us.length) (h : vs.flatMap (bits w) = us.flatMap (bits w)) : vs = us := by
  induction vs generalizing us with
  | nil => exact (List.length_eq_zero_iff.mp hlen.symm).symm
  | cons v vs ih =>
    cases us with
    | nil => cases hlen
    | cons u us =>
      obtain ⟨hv, hvs⟩ := List.forall_mem_cons.mp hvs
      obtain ⟨hu, hus⟩ := List.forall_mem_cons.mp hus
      obtain ⟨hfirst, hrest⟩ := List.append_inj h (by rw [length_bits, length_bits])
      rw [bits_inj hv hu hfirst, ih hvs hus (Nat.succ.inj hlen) hrest]

lemma map_some_eq_iff :
    cs.map some = vs.map (alphabet[·]?) ↔ (∀ v ∈ vs, v < 64) ∧ cs = vs.map letter := by
  induction vs generalizing cs with
  | nil => simp
  | cons v vs ih =>
    cases cs with
    | nil => simp
    | cons c cs =>
      simp only [List.map_cons, List.cons.injEq, List.forall_mem_cons, ih, eq_comm (a := some c),
        alphabet_eq_some_iff]
      tauto

lemma bits_groupBytes (hvs : ∀ v ∈ vs, v < 64) (h : fills vs = true) :
    ∃ zeros < 6, vs.flatMap (bits 6) = bytesBits (groupBytes vs) ++ List.replicate zeros false := by
  have hfirst (a b : Nat) (ha : a < 64) (hb : b < 64) :
      bits 8 (a * 4 + b / 16).toUInt8.toNat = bits 6 a ++ bits 2 (b / 16) := by
    rw [toNat_toUInt8 (by omega)]
    exact bits_glue (w := 2) 6 a (by omega)
  have hsecond (b c : Nat) (hc : c < 64) :
      bits 8 (b % 16 * 16 + c / 4).toUInt8.toNat = bits 4 b ++ bits 4 (c / 4) := by
    rw [toNat_toUInt8 (by omega), ← bits_mod 4 b]
    exact bits_glue (w := 4) 4 (b % 16) (by omega)
  have hthird (c d : Nat) (hd : d < 64) :
      bits 8 (c % 4 * 64 + d).toUInt8.toNat = bits 2 c ++ bits 6 d := by
    rw [toNat_toUInt8 (by omega), ← bits_mod 2 c]
    exact bits_glue (w := 6) 2 (c % 4) hd
  have hb (b : Nat) : bits 6 b = bits 2 (b / 16) ++ bits 4 b := bits_add 2 4 b
  have hc (c : Nat) : bits 6 c = bits 4 (c / 4) ++ bits 2 c := bits_add 4 2 c
  fun_induction fills vs with
  | case1 x y z t rest ih =>
    simp only [List.forall_mem_cons] at hvs
    obtain ⟨hx, hy, hz, ht, hrest⟩ := hvs
    obtain ⟨zeros, hzeros, hbits⟩ := ih hrest h
    refine ⟨zeros, hzeros, ?_⟩
    simp only [groupBytes, bytesBits, List.flatMap_cons] at hbits ⊢
    rw [hfirst x y hx hy, hsecond y z hz, hthird z t ht, hb y, hc z, hbits]
    simp only [List.append_assoc]
  | case2 x y z =>
    simp only [List.forall_mem_cons] at hvs
    obtain ⟨hx, hy, hz, -⟩ := hvs
    have hrest : bits 2 z = List.replicate 2 false := by
      rw [← bits_mod 2 z, show z % 2 ^ 2 = 0 from eq_of_beq h]
      rfl
    refine ⟨2, by decide, ?_⟩
    simp only [groupBytes, bytesBits, List.flatMap_cons, List.flatMap_nil, List.append_nil]
    rw [hfirst x y hx hy, hsecond y z hz, hb y, hc z, hrest]
    simp only [List.append_assoc]
  | case3 x y =>
    simp only [List.forall_mem_cons] at hvs
    obtain ⟨hx, hy, -⟩ := hvs
    have hrest : bits 4 y = List.replicate 4 false := by
      rw [← bits_mod 4 y, show y % 2 ^ 4 = 0 from eq_of_beq h]
      rfl
    refine ⟨4, by decide, ?_⟩
    simp only [groupBytes, bytesBits, List.flatMap_cons, List.flatMap_nil, List.append_nil]
    rw [hfirst x y hx hy, hb y, hrest]
    simp only [List.append_assoc]
  | case4 => cases h
  | case5 => exact ⟨0, by decide, rfl⟩

lemma spells_letters (b : ByteArray) : Spells (letters b.data.toList) b := by
  obtain ⟨vs, hvs, hfills, hbytes⟩ := values_letters b.data.toList
  have hspelled := mapM_value?_eq_some_iff.mp hvs
  obtain ⟨zeros, hzeros, hbits⟩ := bits_groupBytes hspelled.1 hfills
  rw [hbytes] at hbits
  exact ⟨vs, zeros, map_some_eq_iff.mpr hspelled, hzeros, hbits⟩

lemma spells_unique (h : Spells cs b) (h' : Spells ds b) : cs = ds := by
  obtain ⟨vs, z, hvs, hz, hbits⟩ := h
  obtain ⟨us, y, hus, hy, hbits'⟩ := h'
  obtain ⟨hvlt, rfl⟩ := map_some_eq_iff.mp hvs
  obtain ⟨hult, rfl⟩ := map_some_eq_iff.mp hus
  have hlen := congrArg List.length hbits
  have hlen' := congrArg List.length hbits'
  simp only [length_flatMap_bits, List.length_append, length_bytesBits, List.length_replicate]
    at hlen hlen'
  -- fewer than six zeros make the number of letters certain
  obtain ⟨hsame, rfl⟩ : vs.length = us.length ∧ z = y := by omega
  rw [flatMap_bits_inj (w := 6) hvlt hult hsame (hbits.trans hbits'.symm)]

lemma spells_iff : Spells cs b ↔ cs = letters b.data.toList := by
  constructor
  · exact fun h => spells_unique h (spells_letters b)
  · rintro rfl
    exact spells_letters b

lemma bytes_unique (h : Spells cs b) (h' : Spells cs c) : b = c := by
  have hletters := (spells_iff.mp h).symm.trans (spells_iff.mp h')
  exact ByteArray.ext (Array.toList_inj.mp (letters_inj hletters))

lemma padding_eq_replicate (n : Nat) : ∃ k, padding n = List.replicate k '=' ∧
    k < 4 ∧ (n % 3 = 0 ∧ k = 0 ∨ n % 3 = 1 ∧ k = 2 ∨ n % 3 = 2 ∧ k = 1) := by
  have hcases : n % 3 = 0 ∨ n % 3 = 1 ∨ n % 3 = 2 := by omega
  rcases hcases with h | h | h
  · exact ⟨0, by rw [padding, h]; rfl, by omega⟩
  · exact ⟨2, by rw [padding, h]; rfl, by omega⟩
  · exact ⟨1, by rw [padding, h]; rfl, by omega⟩

lemma padded_iff (h : Spells cs b) {text : List Char} : Padded cs text ↔ text = cs ++ padding b.size := by
  obtain ⟨k, hk, hlt, hcase⟩ := padding_eq_replicate b.size
  obtain ⟨vs, z, hvs, hz, hbits⟩ := h
  have hlen := congrArg List.length hbits
  have hsame := congrArg List.length hvs
  simp only [length_flatMap_bits, List.length_append, length_bytesBits, List.length_replicate,
    List.length_map, Array.length_toList, ByteArray.size_data] at hlen hsame
  rw [hk]
  constructor
  · rintro ⟨j, hj, rfl, hgroups⟩
    rw [List.length_append, List.length_replicate] at hgroups
    rw [show j = k by omega]
  · rintro rfl
    refine ⟨k, hlt, rfl, ?_⟩
    rw [List.length_append, List.length_replicate]
    omega

lemma decode?_iff_spells {s : String} : decode? s = some b ↔
    ∃ cs, Spells cs b ∧ (s.toList = cs ∨ Padded cs s.toList) := by
  rw [decode?_eq_some_iff, eq_encode_iff, eq_encodeUnpadded_iff]
  constructor
  · rintro (h | h)
    · exact ⟨_, spells_letters b, .inr ((padded_iff (spells_letters b)).mpr h)⟩
    · exact ⟨_, spells_letters b, .inl h⟩
  · rintro ⟨cs, hcs, h⟩
    have hletters := spells_iff.mp hcs
    rw [padded_iff hcs] at h
    subst hletters
    exact h.symm

end TwoHop.Proofs.Token.Bits
