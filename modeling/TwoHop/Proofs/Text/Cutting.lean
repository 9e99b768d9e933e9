import Mathlib.Data.List.TakeWhile
import Mathlib.Tactic.Common

namespace TwoHop.Proofs.Text.Cutting

variable {p : Char → Bool} {front tail : List Char}

lemma takeWhile_append_eq (hfront : ∀ c ∈ front, p c = true) (htail : ∀ c ∈ tail.head?, p c = false) :
    (front ++ tail).takeWhile p = front := by
  rw [List.takeWhile_append_of_pos hfront]
  cases tail with
  | nil => simp
  | cons c cs => simp [htail c rfl]

lemma exists_cut (p : Char → Bool) (cs : List Char) : ∃ front tail, cs = front ++ tail ∧
    (∀ c ∈ front, p c = true) ∧ ∀ c ∈ tail.head?, p c = false := by
  refine ⟨cs.takeWhile p, cs.dropWhile p, List.takeWhile_append_dropWhile.symm,
    fun c hc => List.mem_takeWhile_imp hc, fun c hc => ?_⟩
  have hstop := List.head?_dropWhile_not p cs
  rwa [Option.mem_def.mp hc] at hstop

end TwoHop.Proofs.Text.Cutting
