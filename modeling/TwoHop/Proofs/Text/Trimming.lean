import Mathlib.Tactic.Common
import TwoHop.Text.Blank

namespace TwoHop.Proofs.Text.Trimming

open TwoHop.Text

variable {as cs zs : List Char}

structure Tight (cs : List Char) : Prop where
  first : ∀ c ∈ cs.head?, isBlank c = false
  last : ∀ c ∈ cs.getLast?, isBlank c = false

lemma tight_of_not_blank (h : cs.all (!isBlank ·) = true) : Tight cs where
  first c hc := by simpa using List.all_eq_true.mp h c (List.mem_of_mem_head? hc)
  last c hc := by simpa using List.all_eq_true.mp h c (List.mem_of_mem_getLast? hc)

lemma Tight.reverse (h : Tight cs) : Tight cs.reverse where
  first c hc := h.last c (by rwa [List.head?_reverse] at hc)
  last c hc := h.first c (by rwa [List.getLast?_reverse] at hc)

lemma Tight.append (ha : Tight as) (hc : Tight cs) : Tight (as ++ cs) where
  first c h := by
    rcases Option.or_eq_some_iff.mp (by rwa [List.head?_append] at h) with h | ⟨-, h⟩
    · exact ha.first c h
    · exact hc.first c h
  last c h := by
    rcases Option.or_eq_some_iff.mp (by rwa [List.getLast?_append] at h) with h | ⟨-, h⟩
    · exact hc.last c h
    · exact ha.last c h

lemma dropBlank_of_first (h : ∀ c ∈ cs.head?, isBlank c = false) : dropBlank cs = cs := by
  cases cs with
  | nil => rfl
  | cons c cs => exact List.dropWhile_cons_of_neg (by simp [h c rfl])

lemma dropBlank_blanks (has : ∀ c ∈ as, isBlank c = true) : dropBlank (as ++ cs) = dropBlank cs :=
  List.dropWhile_append_of_pos has

lemma trimList_of_tight (h : Tight cs) : trimList cs = cs := by
  rw [trimList, dropBlank_of_first h.first, dropBlank_of_first h.reverse.first, List.reverse_reverse]

lemma first_dropBlank (cs : List Char) : ∀ c ∈ (dropBlank cs).head?, isBlank c = false := by
  intro c hc
  have hstop := List.head?_dropWhile_not isBlank cs
  rwa [← dropBlank, Option.mem_def.mp hc] at hstop

lemma tight_trimList (cs : List Char) : Tight (trimList cs) := by
  obtain ⟨blanks, hcut⟩ : trimList cs <+: dropBlank cs := by
    apply List.reverse_suffix.mp
    rw [trimList, List.reverse_reverse]
    exact List.dropWhile_suffix isBlank
  refine Tight.mk ?_ ?_
  · intro c hc
    apply first_dropBlank cs c
    rw [← hcut, List.head?_append]
    exact Option.or_eq_some_iff.mpr (Or.inl hc)
  · intro c hc
    rw [trimList, List.getLast?_reverse] at hc
    exact first_dropBlank _ c hc

lemma mem_dropBlank {c : Char} (h : c ∈ cs) (hc : isBlank c = false) : c ∈ dropBlank cs := by
  rw [← List.takeWhile_append_dropWhile (p := isBlank) (l := cs), List.mem_append] at h
  apply h.resolve_left
  intro hblank
  rw [List.all_eq_true.mp List.all_takeWhile c hblank] at hc
  cases hc

lemma mem_trimList {c : Char} (h : c ∈ cs) (hc : isBlank c = false) : c ∈ trimList cs := by
  have hfront := List.mem_reverse.mpr (mem_dropBlank h hc)
  exact List.mem_reverse.mpr (mem_dropBlank hfront hc)

lemma trimList_surrounded (has : ∀ c ∈ as, isBlank c = true) (hzs : ∀ c ∈ zs, isBlank c = true)
    (h : Tight cs) : trimList (as ++ cs ++ zs) = cs := by
  have hback : ∀ c ∈ zs.reverse, isBlank c = true := fun c hc => hzs c (List.mem_reverse.mp hc)
  have hfront : dropBlank (as ++ cs ++ zs) = dropBlank (cs ++ zs) := by
    rw [List.append_assoc, dropBlank_blanks has]
  rw [trimList, hfront]
  cases cs with
  | nil =>
    rw [List.nil_append, ← List.append_nil zs, dropBlank_blanks hzs]
    rfl
  | cons c cs =>
    have hkept : dropBlank (c :: cs ++ zs) = c :: cs ++ zs := dropBlank_of_first h.first
    rw [hkept, List.reverse_append, dropBlank_blanks hback, dropBlank_of_first h.reverse.first,
      List.reverse_reverse]

lemma trim_surrounded {s : String} {before after : String} (hb : allBlank before = true)
    (ha : allBlank after = true) (h : Tight s.toList) : trim (before ++ s ++ after) = s := by
  rw [trim, String.toList_append, String.toList_append,
    trimList_surrounded (List.all_eq_true.mp hb) (List.all_eq_true.mp ha) h, String.ofList_toList]

end TwoHop.Proofs.Text.Trimming
