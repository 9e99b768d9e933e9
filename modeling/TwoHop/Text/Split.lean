namespace TwoHop.Text

def splitFirst (c : Char) : List Char → Option (List Char × List Char)
  | [] => none
  | x :: xs =>
    if x = c then some ([], xs) else (splitFirst c xs).map fun (a, b) => (x :: a, b)

def splitLast (c : Char) (cs : List Char) : Option (List Char × List Char) :=
  (splitFirst c cs.reverse).map fun (a, b) => (b.reverse, a.reverse)

def splitAll (c : Char) : List Char → List (List Char)
  | [] => [[]]
  | x :: xs =>
    if x = c then [] :: splitAll c xs
    else match splitAll c xs with
      | piece :: pieces => (x :: piece) :: pieces
      | [] => [[x]]

theorem splitFirst_append {c : Char} {a b : List Char} (h : c ∉ a) :
    splitFirst c (a ++ c :: b) = some (a, b) := by
  induction a with
  | nil => simp [splitFirst]
  | cons x xs ih =>
    have hx : ¬x = c := fun hx => h (by simp [hx])
    have hxs : c ∉ xs := fun hc => h (List.mem_cons_of_mem x hc)
    rw [List.cons_append, splitFirst, if_neg hx, ih hxs]
    rfl

theorem splitFirst_eq_none {c : Char} {cs : List Char} (h : c ∉ cs) : splitFirst c cs = none := by
  induction cs with
  | nil => rfl
  | cons x xs ih =>
    have hx : ¬x = c := fun hx => h (by simp [hx])
    have hxs : c ∉ xs := fun hc => h (List.mem_cons_of_mem x hc)
    rw [splitFirst, if_neg hx, ih hxs]
    rfl

theorem splitLast_append {c : Char} {a b : List Char} (h : c ∉ b) :
    splitLast c (a ++ c :: b) = some (a, b) := by
  have hrev : (a ++ c :: b).reverse = b.reverse ++ c :: a.reverse := by simp
  rw [splitLast, hrev, splitFirst_append (by simpa using h)]
  simp

theorem exists_splitLast {c : Char} {cs : List Char} (h : c ∈ cs) :
    ∃ a b, cs = a ++ c :: b ∧ c ∉ b ∧ splitLast c cs = some (a, b) := by
  obtain ⟨b, a, he, hb⟩ := List.eq_append_cons_of_mem (List.mem_reverse.2 h)
  have hcs : cs = a.reverse ++ c :: b.reverse := by simpa using congrArg List.reverse he
  have hlast : c ∉ b.reverse := by simpa using hb
  exact ⟨a.reverse, b.reverse, hcs, hlast, hcs ▸ splitLast_append hlast⟩

theorem splitLast_eq_none {c : Char} {cs : List Char} (h : c ∉ cs) : splitLast c cs = none := by
  rw [splitLast, splitFirst_eq_none (by simpa using h)]
  rfl

end TwoHop.Text
