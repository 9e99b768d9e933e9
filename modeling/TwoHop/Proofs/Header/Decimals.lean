import TwoHop.Proofs.Header.Values
import TwoHop.Proofs.Token.Spelling
import TwoHop.Reply

namespace TwoHop.Proofs.Header.Decimals

open TwoHop.Header TwoHop.Text
open Text.Trimming Token.Spelling Wire.Values Maps

structure Spells (cs : List Char) (n : Nat) : Prop where
  nonempty : cs ≠ []
  digits : ∀ c ∈ cs, c.isDigit = true
  value : Nat.ofDigitChars 10 cs 0 = n

def Plain (value : ByteArray) (n : Nat) : Prop :=
  ∃ cs, value = (String.ofList cs).toUTF8 ∧ Spells cs n

variable {cs : List Char} {n max acc : Nat} {value : ByteArray}

lemma spells_toDigits (n : Nat) : Spells (Nat.toDigits 10 n) n where
  nonempty := Nat.toDigits_ne_nil
  digits _ hc := Nat.isDigit_of_mem_toDigits (by decide) (by decide) hc
  value := Nat.ofDigitChars_ten_toDigits

lemma plain_toString (n : Nat) : Plain (toString n).toUTF8 n :=
  ⟨_, by rw [Nat.toString_eq_ofList_toDigits], spells_toDigits n⟩

lemma le_ofDigitChars (cs : List Char) (acc : Nat) : acc ≤ Nat.ofDigitChars 10 cs acc := by
  induction cs generalizing acc with
  | nil => exact Nat.le_refl _
  | cons c cs ih =>
    rw [Nat.ofDigitChars_cons]
    exact Nat.le_trans (by omega) (ih _)

lemma digitsFrom_eq (hdigits : ∀ c ∈ cs, c.isDigit = true) (hacc : acc ≤ max) :
    digitsFrom max acc cs =
      if Nat.ofDigitChars 10 cs acc ≤ max then some (Nat.ofDigitChars 10 cs acc) else none := by
  induction cs generalizing acc with
  | nil => exact (if_pos hacc).symm
  | cons c cs ih =>
    obtain ⟨hc, hcs⟩ := List.forall_mem_cons.mp hdigits
    have hstep : digitsFrom max acc (c :: cs) = if acc * 10 + (c.toNat - '0'.toNat) ≤ max then
        digitsFrom max (acc * 10 + (c.toNat - '0'.toNat)) cs else none := by
      rw [digitsFrom, digit?, if_pos hc]
      rfl
    rw [hstep, Nat.ofDigitChars_cons, Nat.mul_comm acc 10]
    split
    · next hle => exact ih hcs hle
    · next hgt => 
      have hbeyond := le_ofDigitChars cs (10 * acc + (c.toNat - '0'.toNat))
      rw [if_neg (by omega)]

lemma decimal?_of_spells (h : Spells cs n) : decimal? max cs = if n ≤ max then some n else none := by
  obtain ⟨hnonempty, hdigits, rfl⟩ := h
  rw [← digitsFrom_eq hdigits (Nat.zero_le max)]
  cases cs with
  | nil => exact absurd rfl hnonempty
  | cons c cs =>
    have hsign : c ≠ '+' := by
      rintro rfl
      exact absurd (hdigits _ List.mem_cons_self) (by decide)
    rw [decimal?]
    · rintro d ds ⟨⟩
      exact hsign rfl
    · rintro ⟨⟩
      exact hsign rfl
    · rintro ⟨⟩

lemma digitsFrom_le (hacc : acc ≤ max) (h : digitsFrom max acc cs = some n) : n ≤ max := by
  induction cs generalizing acc with
  | nil =>
    cases h
    exact hacc
  | cons c cs ih =>
    rw [digitsFrom, Option.bind_eq_bind, Option.bind_eq_some_iff] at h
    obtain ⟨d, -, h⟩ := h
    dsimp only at h
    split at h
    · next hle => exact ih hle h
    · cases h

lemma decimal?_le (h : decimal? max cs = some n) : n ≤ max := by
  unfold decimal? at h
  split at h
  · exact digitsFrom_le (Nat.zero_le max) h
  · cases h
  · cases h
  · exact digitsFrom_le (Nat.zero_le max) h

lemma announcedLength_le {headers : Map} (h : announcedLength headers = some n) : n ≤ maxLength := by
  rw [announcedLength] at h
  split at h
  · cases h
  · split at h
    · obtain ⟨text, -, h⟩ := Option.bind_eq_some_iff.mp h
      exact decimal?_le h
    · cases h
      exact Nat.zero_le _

lemma of_digit {p : Char → Bool} (hall : ∀ i : Fin 10, p (Char.ofNat (48 + i.val)) = true) {c : Char}
    (hc : c.isDigit = true) : p c = true := by
  rw [Char.isDigit, Bool.and_eq_true, decide_eq_true_eq, decide_eq_true_eq] at hc
  have hlow : 48 ≤ c.toNat := UInt32.le_iff_toNat_le.mp hc.1
  have hhigh : c.toNat ≤ 57 := UInt32.le_iff_toNat_le.mp hc.2
  have hp := hall ⟨c.toNat - 48, by omega⟩
  rwa [show 48 + (c.toNat - 48) = c.toNat by omega, Char.ofNat_toNat] at hp

lemma visible_of_spells (h : Spells cs n) : (String.ofList cs).toUTF8.data.all isVisible = true := by
  rw [String.toUTF8_eq_toByteArray, String.toByteArray_ofList]
  apply all_utf8Encode
  intro c hc
  exact of_digit (p := fun c => (String.utf8EncodeChar c).all isVisible) (by decide)
    (h.digits c hc)

lemma tight_of_spells (h : Spells cs n) : Tight cs := by
  apply tight_of_not_blank
  apply List.all_eq_true.mpr
  intro c hc
  exact of_digit (p := fun c => !isBlank c) (by decide) (h.digits c hc)

lemma announcedLength_of_plain {headers : Map} {values : List ByteArray} (h : Plain value n)
    (hunchunked : headers.contains "transfer-encoding" = false)
    (hvalues : headers.values "content-length" = value :: values) :
    announcedLength headers = if n ≤ maxLength then some n else none := by
  obtain ⟨cs, rfl, hcs⟩ := h
  have hcontains : headers.contains "content-length" = true := by
    apply contains_of_values
    rw [hvalues]
    exact List.cons_ne_nil _ _
  have htext : headers.text? "content-length" = some (String.ofList cs) := by
    rw [Map.text?, Map.get?, hvalues, List.head?_cons]
    show (if _ then String.fromUTF8? (String.ofList cs).toUTF8 else none) = _
    rw [if_pos (visible_of_spells hcs), fromUTF8?_eq_some_iff.mpr rfl]
  rw [announcedLength, if_neg (by rw [hunchunked]; exact Bool.false_ne_true), if_pos hcontains, htext]
  show decimal? maxLength (trimList (String.ofList cs).toList) = _
  rw [String.toList_ofList, trimList_of_tight (tight_of_spells hcs), decimal?_of_spells hcs]

end TwoHop.Proofs.Header.Decimals
