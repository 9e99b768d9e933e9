import Mathlib.Tactic.Common
import TwoHop.Text.Ascii

namespace TwoHop.Proofs.Text.Letters

variable {c : Char}

lemma isUpper_iff : c.isUpper = true ↔ c.val ≥ 'A'.val ∧ c.val ≤ 'Z'.val := decide_eq_true_iff

lemma isLower_iff : c.isLower = true ↔ c.val ≥ 'a'.val ∧ c.val ≤ 'z'.val :=
  Bool.and_eq_true_iff.trans (and_congr decide_eq_true_iff decide_eq_true_iff)

lemma isAlpha_iff : c.isAlpha = true ↔ c.isUpper = true ∨ c.isLower = true := Bool.or_eq_true_iff

lemma toLower_of_not (h : ¬ (c.val ≥ 'A'.val ∧ c.val ≤ 'Z'.val)) : c.toLower = c := dif_neg h

lemma val_toLower (h : c.val ≥ 'A'.val ∧ c.val ≤ 'Z'.val) :
    c.toLower.val = c.val + ('a'.val - 'A'.val) := by
  have he : c.toLower = ⟨c.val + ('a'.val - 'A'.val), _⟩ := dif_pos h
  rw [he]

lemma toUpper_of_not (h : ¬ (c.val ≥ 'a'.val ∧ c.val ≤ 'z'.val)) : c.toUpper = c := dif_neg h

lemma val_toUpper (h : c.val ≥ 'a'.val ∧ c.val ≤ 'z'.val) :
    c.toUpper.val = c.val + ('A'.val - 'a'.val) := by
  have he : c.toUpper = ⟨c.val + ('A'.val - 'a'.val), _⟩ := dif_pos h
  rw [he]

lemma toLower_toLower (c : Char) : c.toLower.toLower = c.toLower := by
  by_cases h : c.val ≥ 'A'.val ∧ c.val ≤ 'Z'.val
  · apply toLower_of_not
    rw [val_toLower h]
    grind
  · rw [toLower_of_not h, toLower_of_not h]

lemma toLower_toUpper (c : Char) : c.toUpper.toLower = c.toLower := by
  by_cases h : c.val ≥ 'a'.val ∧ c.val ≤ 'z'.val
  · have hupper : c.toUpper.val ≥ 'A'.val ∧ c.toUpper.val ≤ 'Z'.val := by
      rw [val_toUpper h]
      grind
    have hlower : ¬ (c.val ≥ 'A'.val ∧ c.val ≤ 'Z'.val) := by grind
    apply Char.ext
    rw [val_toLower hupper, val_toUpper h, toLower_of_not hlower]
    grind
  · rw [toUpper_of_not h]

lemma isAlpha_of_toUpper (h : c.toUpper.isUpper = true) : c.isAlpha = true := by
  rw [isAlpha_iff]
  by_cases hlower : c.val ≥ 'a'.val ∧ c.val ≤ 'z'.val
  · exact Or.inr (isLower_iff.mpr hlower)
  · rw [toUpper_of_not hlower] at h
    exact Or.inl h

lemma isTokenChar_toLower (h : Text.isTokenChar c = true) : Text.isTokenChar c.toLower = true := by
  by_cases hc : c.val ≥ 'A'.val ∧ c.val ≤ 'Z'.val
  · have hletter : c.toLower.isLower = true := by
      rw [isLower_iff, val_toLower hc]
      grind
    show (c.toLower.isUpper || c.toLower.isLower || c.toLower.isDigit || _) = true
    rw [hletter, Bool.or_true, Bool.true_or, Bool.true_or]
  · rwa [toLower_of_not hc]

lemma utf8Size_toLower (c : Char) : c.toLower.utf8Size = c.utf8Size := by
  by_cases h : c.val ≥ 'A'.val ∧ c.val ≤ 'Z'.val
  · simp only [Char.utf8Size, val_toLower h]
    grind
  · rw [toLower_of_not h]

lemma lower_eq_iff {s t : String} : Text.lower s = t ↔ s.toList.map Char.toLower = t.toList := by
  rw [← String.toList_inj, Text.lower, String.toList_map]

lemma lower_lower (s : String) : Text.lower (Text.lower s) = Text.lower s := by
  rw [Text.lower, Text.lower, String.map_map]
  congr 1
  funext c
  exact toLower_toLower c

lemma lower_upper (s : String) : Text.lower (Text.upper s) = Text.lower s := by
  rw [Text.lower, Text.lower, Text.upper, String.map_map]
  congr 1
  funext c
  exact toLower_toUpper c

lemma size_utf8Encode_toLower (cs : List Char) :
    (cs.map Char.toLower).utf8Encode.size = cs.utf8Encode.size := by
  induction cs with
  | nil => rfl
  | cons c cs ih =>
    have hcons (d : Char) (ds : List Char) :
        (d :: ds).utf8Encode.size = d.utf8Size + ds.utf8Encode.size := by
      rw [List.utf8Encode_cons, ByteArray.size_append, List.utf8Encode_singleton,
        List.size_toByteArray, String.length_utf8EncodeChar]
    rw [List.map_cons, hcons, hcons, ih, utf8Size_toLower]

lemma size_lower (s : String) : (Text.lower s).toUTF8.size = s.toUTF8.size := by
  have h (t : String) : t.toUTF8 = t.toList.utf8Encode := by
    rw [← String.toByteArray_ofList, String.ofList_toList, String.toUTF8_eq_toByteArray]
  rw [h, h, Text.lower, String.toList_map, size_utf8Encode_toLower]

end TwoHop.Proofs.Text.Letters
