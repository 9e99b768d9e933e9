import Mathlib.Data.List.Flatten
import Mathlib.Data.List.Induction
import Mathlib.Data.List.Nodup
import Mathlib.Data.List.Perm.Basic
import Mathlib.Tactic.Common
import TwoHop.Header.Map
import TwoHop.Proofs.Text.Letters

namespace TwoHop.Proofs.Header.Maps

open TwoHop.Header
open Text.Letters

def Distinct (groups : List Group) : Prop := (groups.map (·.name)).Nodup

structure Proper (m : Map) : Prop where
  distinct : Distinct m.groups.toList
  names : ∀ g ∈ m.groups.toList, isName g.name = true ∧ Text.lower g.name = g.name
  values : ∀ g ∈ m.groups.toList, ∀ v ∈ g.values.toList, isValue v = true

lemma distinct_cons {g : Group} {groups : List Group} :
    Distinct (g :: groups) ↔ (∀ k ∈ groups, k.name ≠ g.name) ∧ Distinct groups := by
  simp [Distinct, List.nodup_cons]

def find (groups : List Group) (name : String) : Option Group := groups.find? (·.name == name)

lemma values_eq (m : Map) (name : String) :
    m.values name = ((find m.groups.toList name).map (·.values.toList)).getD [] := by
  rw [Map.values, find, ← Array.find?_toList]
  cases m.groups.toList.find? (·.name == name) <;> rfl

lemma find_eq_some_iff {groups : List Group} (h : Distinct groups) {name : String} {g : Group} :
    find groups name = some g ↔ g ∈ groups ∧ g.name = name := by
  constructor
  · intro hf
    exact ⟨List.mem_of_find?_eq_some hf, by simpa using List.find?_some hf⟩
  · rintro ⟨hg, rfl⟩
    induction groups with
    | nil => cases hg
    | cons first groups ih =>
      obtain ⟨hfirst, hrest⟩ := distinct_cons.mp h
      rcases List.mem_cons.mp hg with rfl | hg
      · simp [find]
      · have hne := Ne.symm (hfirst g hg)
        rw [find, List.find?_cons_of_neg (by simpa using hne)]
        exact ih hrest hg

lemma find_congr {groups others : List Group} (h : Distinct groups) (h' : Distinct others)
    {name : String} (hsame : ∀ g, g.name = name → (g ∈ groups ↔ g ∈ others)) :
    find groups name = find others name := by
  apply Option.ext
  intro g
  rw [find_eq_some_iff h, find_eq_some_iff h']
  exact and_congr_left fun hg => hsame g hg

def named {α : Type} (pairs : List (String × α)) (name : String) : List α :=
  (pairs.filter (·.1 == name)).map (·.2)

lemma named_cons {α : Type} (n : String) (v : α) (pairs : List (String × α)) (name : String) :
    named ((n, v) :: pairs) name = (if name = n then [v] else []) ++ named pairs name := by
  by_cases hn : name = n
  · simp [named, hn]
  · simp [named, hn, Ne.symm hn]

lemma named_append {α : Type} (ps qs : List (String × α)) (name : String) :
    named (ps ++ qs) name = named ps name ++ named qs name := by
  rw [named, List.filter_append, List.map_append, named, named]

lemma named_group (g : Group) (name : String) : named (g.values.toList.map (g.name, ·)) name =
    if g.name = name then g.values.toList else [] := by
  rw [named, List.filter_map]
  by_cases hg : g.name = name
  · simp [hg, Function.comp_def]
  · simp [hg, Function.comp_def]

lemma named_of_absent {groups : List Group} {name : String} (h : ∀ g ∈ groups, g.name ≠ name) :
    named (groups.flatMap fun g => g.values.toList.map (g.name, ·)) name = [] := by
  induction groups with
  | nil => rfl
  | cons g groups ih =>
    obtain ⟨hg, hrest⟩ := List.forall_mem_cons.mp h
    rw [List.flatMap_cons, named_append, named_group, if_neg hg, ih hrest, List.append_nil]

lemma named_toList {m : Map} (h : Distinct m.groups.toList) (name : String) :
    named m.toList name = m.values name := by
  rw [values_eq, Map.toList]
  generalize m.groups.toList = groups at h ⊢
  induction groups with
  | nil => rfl
  | cons g groups ih =>
    obtain ⟨hg, hrest⟩ := distinct_cons.mp h
    rw [List.flatMap_cons, named_append, named_group]
    by_cases hn : g.name = name
    · subst hn
      rw [if_pos rfl, named_of_absent hg, List.append_nil, find, List.find?_cons_of_pos (by simp)]
      rfl
    · rw [if_neg hn, List.nil_append, ih hrest, find, find,
        List.find?_cons_of_neg (by simpa using hn)]

lemma eraseP_eq_filter {groups : List Group} (h : Distinct groups) (name : String) :
    groups.eraseP (·.name == name) = groups.filter (·.name != name) := by
  induction groups with
  | nil => rfl
  | cons g groups ih =>
    obtain ⟨hg, hrest⟩ := distinct_cons.mp h
    by_cases hn : g.name = name
    · have hkeep : ∀ k ∈ groups, (k.name != name) = true := by
        intro k hk
        rw [bne_iff_ne, ← hn]
        exact hg k hk
      rw [List.eraseP_cons_of_pos (by simpa using hn), List.filter_cons_of_neg (by simpa using hn),
        List.filter_eq_self.mpr hkeep]
    · rw [List.eraseP_cons_of_neg (by simpa using hn), List.filter_cons_of_pos (by simpa using hn),
        ih hrest]

lemma swap_perm {α : Type} (xs : List α) {i : Nat} (h : i < xs.length) (d : α) :
    ((xs.set i (xs.getLast?.getD d)).dropLast).Perm (xs.eraseIdx i) := by
  rcases List.eq_nil_or_concat xs with rfl | ⟨front, last, rfl⟩
  · cases h
  · rw [List.concat_eq_append] at h ⊢
    rw [List.getLast?_concat, Option.getD_some]
    by_cases hi : i < front.length
    · rw [List.set_append_left _ _ hi, List.dropLast_concat, List.eraseIdx_append_of_lt_length hi]
      exact (List.set_perm_cons_eraseIdx hi last).trans (List.perm_append_singleton _ _).symm
    · have hlast : i = front.length := by
        rw [List.length_append, List.length_singleton] at h
        omega
      subst hlast
      rw [List.set_append_right _ _ (Nat.le_refl _), List.eraseIdx_append_of_length_le (Nat.le_refl _)]
      simp

lemma erase_perm {m : Map} (h : Distinct m.groups.toList) (name : String) :
    (m.erase name).groups.toList.Perm (m.groups.toList.filter (·.name != name)) := by
  obtain ⟨⟨groups⟩⟩ := m
  rw [← eraseP_eq_filter h, List.eraseP_eq_eraseIdx, Map.erase, List.findIdx?_toArray]
  cases hi : groups.findIdx? (·.name == name) with
  | none => exact List.Perm.refl _
  | some i =>
    have hlt : i < groups.length := (List.findIdx?_eq_some_iff_getElem.mp hi).1
    simpa using swap_perm groups hlt ⟨name, #[]⟩

lemma distinct_filter {groups : List Group} (h : Distinct groups) (p : Group → Bool) :
    Distinct (groups.filter p) := h.sublist (List.filter_sublist.map _)

lemma mem_erase {m : Map} (h : Distinct m.groups.toList) {name : String} {g : Group} :
    g ∈ (m.erase name).groups.toList ↔ g ∈ m.groups.toList ∧ g.name ≠ name := by
  rw [(erase_perm h name).mem_iff, List.mem_filter, bne_iff_ne]

lemma proper_erase {m : Map} (h : Proper m) (name : String) : Proper (m.erase name) where
  distinct := ((erase_perm h.distinct name).map _).nodup_iff.mpr (distinct_filter h.distinct _)
  names g hg := h.names g ((mem_erase h.distinct).mp hg).1
  values g hg := h.values g ((mem_erase h.distinct).mp hg).1

lemma values_erase {m : Map} (h : Proper m) (erased name : String) :
    (m.erase erased).values name = if name = erased then [] else m.values name := by
  have hdistinct := (proper_erase h erased).distinct
  rw [values_eq, values_eq]
  by_cases hn : name = erased
  · subst hn
    have hnone : find (m.erase name).groups.toList name = none := by
      rw [Option.eq_none_iff_forall_not_mem]
      intro g hg
      obtain ⟨hmem, hname⟩ := (find_eq_some_iff hdistinct).mp hg
      exact ((mem_erase h.distinct).mp hmem).2 hname
    rw [if_pos rfl, hnone]
    rfl
  · rw [if_neg hn, find_congr hdistinct h.distinct]
    intro g hg
    rw [mem_erase h.distinct, and_iff_left_iff_imp]
    rintro -
    rw [hg]
    exact hn

def pushed (v : ByteArray) (g : Group) : Group := { g with values := g.values.push v }

lemma find_modify {groups : List Group} {n : String} {i : Nat} (v : ByteArray)
    (hi : groups.findIdx? (·.name == n) = some i) (name : String) :
    find (groups.modify i (pushed v)) name =
      (find groups name).map fun g => if name = n then pushed v g else g := by
  induction groups generalizing i with
  | nil => cases hi
  | cons g groups ih =>
    rw [List.findIdx?_cons] at hi
    by_cases hg : g.name = n
    · rw [if_pos (by simpa using hg)] at hi
      cases hi
      rw [List.modify_zero_cons, find, find]
      by_cases hn : g.name = name
      · rw [List.find?_cons_of_pos (by simpa [pushed] using hn),
          List.find?_cons_of_pos (by simpa using hn), Option.map_some, if_pos (hn.symm.trans hg)]
      · have hother : name ≠ n := by
          rintro rfl
          exact hn hg
        rw [List.find?_cons_of_neg (by simpa [pushed] using hn),
          List.find?_cons_of_neg (by simpa using hn)]
        simp [hother]
    · rw [if_neg (by simpa using hg), Option.map_eq_some_iff] at hi
      obtain ⟨j, hj, rfl⟩ := hi
      rw [List.modify_succ_cons, find, find]
      by_cases hn : g.name = name
      · have hother : name ≠ n := by
          rintro rfl
          exact hg hn
        rw [List.find?_cons_of_pos (by simpa using hn), List.find?_cons_of_pos (by simpa using hn)]
        simp [hother]
      · rw [List.find?_cons_of_neg (by simpa using hn), List.find?_cons_of_neg (by simpa using hn)]
        exact ih hj

lemma append_cases (m : Map) (n : String) (v : ByteArray) :
    (∃ i, m.groups.toList.findIdx? (·.name == n) = some i ∧
      (m.append n v).groups.toList = m.groups.toList.modify i (pushed v)) ∨
    ((∀ g ∈ m.groups.toList, g.name ≠ n) ∧
      (m.append n v).groups.toList = m.groups.toList ++ [⟨n, #[v]⟩]) := by
  obtain ⟨⟨groups⟩⟩ := m
  rw [Map.append, List.findIdx?_toArray]
  cases hi : groups.findIdx? (·.name == n) with
  | some i =>
    refine Or.inl ⟨i, rfl, ?_⟩
    simp only [List.modify_toArray]
    rfl
  | none =>
    refine Or.inr ⟨by simpa using hi, ?_⟩
    simp only [List.push_toArray]

lemma values_append (m : Map) (n : String) (v : ByteArray) (name : String) :
    (m.append n v).values name = m.values name ++ if name = n then [v] else [] := by
  rw [values_eq, values_eq]
  rcases append_cases m n v with ⟨i, hi, happend⟩ | ⟨habsent, happend⟩
  · rw [happend, find_modify v hi name]
    have hsome : (m.groups.toList.find? (·.name == n)).isSome = true := by
      obtain ⟨hlt, hname, -⟩ := List.findIdx?_eq_some_iff_getElem.mp hi
      rw [List.find?_isSome]
      exact ⟨_, List.getElem_mem hlt, hname⟩
    by_cases hn : name = n
    · subst hn
      obtain ⟨g, hg⟩ := Option.isSome_iff_exists.mp hsome
      simp [find, hg, pushed]
    · simp [hn]
  · rw [happend, find, find, List.find?_append]
    by_cases hn : name = n
    · subst hn
      have hnone : m.groups.toList.find? (·.name == name) = none := by
        rw [List.find?_eq_none]
        simpa using habsent
      rw [hnone]
      simp
    · have hnew : ([⟨n, #[v]⟩] : List Group).find? (·.name == name) = none := by
        simpa using Ne.symm hn
      rw [hnew, Option.or_none, if_neg hn, List.append_nil]

lemma mem_modify {α : Type} {xs : List α} {i : Nat} {f : α → α} {x : α} (h : x ∈ xs.modify i f) :
    x ∈ xs ∨ ∃ y ∈ xs, x = f y := by
  obtain ⟨j, hj, rfl⟩ := List.mem_iff_getElem.mp h
  rw [List.length_modify] at hj
  rw [List.getElem_modify]
  split
  · exact Or.inr ⟨xs[j], List.getElem_mem hj, rfl⟩
  · exact Or.inl (List.getElem_mem hj)

lemma names_modify (groups : List Group) (i : Nat) (v : ByteArray) :
    (groups.modify i (pushed v)).map (·.name) = groups.map (·.name) := by
  induction groups generalizing i with
  | nil => rw [List.modify_nil]
  | cons g groups ih =>
    cases i with
    | zero => rfl
    | succ i => rw [List.modify_succ_cons, List.map_cons, List.map_cons, ih]

lemma contains_iff {m : Map} {name : String} :
    m.contains name = true ↔ name ∈ m.groups.toList.map (·.name) := by
  rw [Map.contains, ← Array.any_toList, List.any_eq_true, List.mem_map]
  simp only [beq_iff_eq]

lemma contains_of_values {m : Map} {name : String} (h : m.values name ≠ []) :
    m.contains name = true := by
  rw [Map.values] at h
  split at h
  · next hfind => rw [Map.contains, ← Array.isSome_find?, hfind, Option.isSome_some]
  · exact absurd rfl h

lemma contains_append {m : Map} {n name : String} (v : ByteArray) :
    (m.append n v).contains name = true ↔ m.contains name = true ∨ name = n := by
  rw [contains_iff, contains_iff]
  rcases append_cases m n v with ⟨i, hi, happend⟩ | ⟨-, happend⟩
  · obtain ⟨hlt, hname, -⟩ := List.findIdx?_eq_some_iff_getElem.mp hi
    rw [happend, names_modify, or_iff_left_of_imp]
    rintro rfl
    exact List.mem_map.mpr ⟨_, List.getElem_mem hlt, by simpa using hname⟩
  · rw [happend, List.map_append, List.mem_append, List.map_singleton, List.mem_singleton]

lemma proper_append {m : Map} (h : Proper m) {n : String} {v : ByteArray} (hn : isName n = true)
    (hl : Text.lower n = n) (hv : isValue v = true) : Proper (m.append n v) := by
  rcases append_cases m n v with ⟨i, -, happend⟩ | ⟨habsent, happend⟩
  · refine ⟨?_, ?_, ?_⟩
    · rw [happend, Distinct, names_modify]
      exact h.distinct
    · intro g hg
      rw [happend] at hg
      rcases mem_modify hg with hg | ⟨k, hk, rfl⟩
      · exact h.names g hg
      · exact h.names k hk
    · intro g hg w hw
      rw [happend] at hg
      rcases mem_modify hg with hg | ⟨k, hk, rfl⟩
      · exact h.values g hg w hw
      · rw [pushed, Array.toList_push, List.mem_append, List.mem_singleton] at hw
        rcases hw with hw | rfl
        · exact h.values k hk w hw
        · exact hv
  · have hnew : n ∉ m.groups.toList.map (·.name) := by simpa using habsent
    refine ⟨?_, ?_, ?_⟩
    · rw [happend, Distinct, List.map_append]
      exact List.nodup_append'.mpr ⟨h.distinct, List.nodup_singleton n, by simpa using hnew⟩
    · rw [happend]
      exact List.forall_mem_append.mpr ⟨h.names, by simpa using ⟨hn, hl⟩⟩
    · rw [happend]
      exact List.forall_mem_append.mpr ⟨h.values, by simpa using hv⟩

lemma isName_lower {n : String} (h : isName n = true) : isName (Text.lower n) = true := by
  simp only [isName, Text.isToken, Bool.and_eq_true, decide_eq_true_eq] at h ⊢
  obtain ⟨⟨hsome, hall⟩, hsize⟩ := h
  have hsame : (Text.lower n).utf8ByteSize = n.utf8ByteSize := size_lower n
  refine ⟨⟨?_, ?_⟩, ?_⟩
  · rw [String.isEmpty, hsame]
    exact hsome
  · rw [Text.lower, String.toList_map, List.all_map, List.all_eq_true]
    intro c hc
    exact isTokenChar_toLower (List.all_eq_true.mp hall c hc)
  · rw [hsame]
    exact hsize

lemma proper_append? {m m' : Map} (h : Proper m) {n : String} {v : ByteArray}
    (ha : m.append? n v = some m') : Proper m' := by
  rw [Map.append?] at ha
  split at ha
  · next hok =>
    cases ha
    obtain ⟨hn, hv⟩ := Bool.and_eq_true_iff.mp hok
    exact proper_append h (isName_lower hn) (lower_lower n) hv
  · cases ha

@[simp] lemma values_empty (name : String) : Map.empty.values name = [] := rfl

@[simp] lemma contains_empty (name : String) : Map.empty.contains name = false := by
  simp [Map.contains, Map.empty]

lemma proper_empty : Proper .empty := ⟨List.nodup_nil, by simp [Map.empty], by simp [Map.empty]⟩

def received (pairs : List (String × ByteArray)) : Option Map :=
  pairs.foldlM (fun m p => m.append? p.1 p.2) .empty

lemma proper_received {pairs : List (String × ByteArray)} {m : Map} (h : received pairs = some m) :
    Proper m := by
  induction pairs using List.reverseRecOn generalizing m with
  | nil =>
    cases h
    exact proper_empty
  | append_singleton pairs p ih =>
    rw [received, List.foldlM_append] at h
    obtain ⟨u, hu, hlast⟩ := Option.bind_eq_some_iff.mp h
    have happend : u.append? p.1 p.2 = some m := by simpa using hlast
    exact proper_append? (ih hu) happend

end TwoHop.Proofs.Header.Maps
