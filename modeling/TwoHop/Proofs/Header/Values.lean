import TwoHop.Proofs.Header.Maps
import TwoHop.Proofs.Wire.HeaderFields

namespace TwoHop.Proofs.Header.Values

open TwoHop.Header
open Maps
open Wire.HeaderFields Wire.Values

def valuesOf (h : Headers) (name : String) : List String :=
  ((slotOf? name).bind h.slots.get).toList ++ named h.others.toList name

def Seated (h : Headers) : Prop :=
  ∀ s : Slot, h.slots.get s = none → named h.others.toList (Slot.name s) = []

lemma slotOf?_eq_some_iff {name : String} {s : Slot} : slotOf? name = some s ↔ Slot.name s = name := by
  constructor
  · intro h
    rw [slotOf?, Vector.finIdxOf?] at h
    obtain ⟨i, hi, rfl⟩ := Option.map_eq_some_iff.mp h
    exact (Array.finIdxOf?_eq_some_iff.mp hi).1
  · rintro rfl
    exact slotOf?_name s

lemma named_push (others : Array (String × String)) (n v name : String) :
    named (others.push (n, v)).toList name =
      named others.toList name ++ if name = n then [v] else [] := by
  rw [Array.toList_push, named_append, named_cons]
  exact congrArg _ (List.append_nil _)

lemma seated_empty : Seated .empty := fun _ _ => rfl

lemma valuesOf_empty (name : String) : valuesOf .empty name = [] := by
  have hnone (s : Slot) : Headers.empty.slots.get s = none := Vector.getElem_replicate ..
  rw [valuesOf]
  cases slotOf? name with
  | none => rfl
  | some s =>
    rw [Option.bind_some, hnone]
    rfl

lemma slot_lt (s : Slot) : s.val < 30 := s.isLt

def seat (h : Headers) (s : Slot) (v : String) : Headers :=
  { h with slots := h.slots.set s (some v) (slot_lt s) }

lemma insert_of_free {h : Headers} {n : String} {s : Slot} (hname : Slot.name s = Text.lower n)
    (hfree : h.slots.get s = none) (v : String) : h.insert n v = seat h s v := by
  have hslot : slotOf? (Text.lower n) = some s := slotOf?_eq_some_iff.mpr hname
  simp only [Headers.insert, hslot, hfree]
  rfl

lemma insert_of_full {h : Headers} {n : String}
    (hfull : ∀ s : Slot, Slot.name s = Text.lower n → h.slots.get s ≠ none) (v : String) :
    h.insert n v = h.pushOther (Text.lower n) v := by
  rw [Headers.insert]
  cases hslot : slotOf? (Text.lower n) with
  | none => rfl
  | some s =>
    have htaken : ¬ (h.slots.get s).isNone = true := by
      rw [Option.isNone_iff_eq_none]
      exact hfull s (slotOf?_eq_some_iff.mp hslot)
    exact if_neg htaken

lemma insert_cases (h : Headers) (n v : String) :
    (h.insert n v = h.pushOther (Text.lower n) v ∧
      ∀ s : Slot, Slot.name s = Text.lower n → h.slots.get s ≠ none) ∨
    ∃ s : Slot, Slot.name s = Text.lower n ∧ h.slots.get s = none ∧ h.insert n v = seat h s v := by
  by_cases hfree : ∃ s : Slot, Slot.name s = Text.lower n ∧ h.slots.get s = none
  · obtain ⟨s, hname, hs⟩ := hfree
    exact Or.inr ⟨s, hname, hs, insert_of_free hname hs v⟩
  · have hfull : ∀ s : Slot, Slot.name s = Text.lower n → h.slots.get s ≠ none :=
      fun s hname hs => hfree ⟨s, hname, hs⟩
    exact Or.inl ⟨insert_of_full hfull v, hfull⟩

lemma valuesOf_pushOther (h : Headers) (n v name : String) :
    valuesOf (h.pushOther n v) name = valuesOf h name ++ if name = n then [v] else [] := by
  rw [valuesOf, slots_pushOther, Headers.pushOther, named_push, ← List.append_assoc]
  rfl

lemma seated_pushOther {h : Headers} (hs : Seated h) {n : String} (v : String)
    (hn : ∀ s : Slot, Slot.name s = n → h.slots.get s ≠ none) : Seated (h.pushOther n v) := by
  intro s hfree
  rw [slots_pushOther] at hfree
  have hne : Slot.name s ≠ n := fun he => hn s he hfree
  rw [Headers.pushOther, named_push, hs s hfree, if_neg hne]
  rfl

lemma valuesOf_seat {h : Headers} (hs : Seated h) {s : Slot} (hfree : h.slots.get s = none)
    (v name : String) :
    valuesOf (seat h s v) name = valuesOf h name ++ if name = Slot.name s then [v] else [] := by
  rw [valuesOf, valuesOf, seat]
  cases ht : slotOf? name with
  | none =>
    have hne : name ≠ Slot.name s := by
      rintro rfl
      rw [slotOf?_name] at ht
      cases ht
    rw [if_neg hne, List.append_nil]
    rfl
  | some t =>
    obtain rfl := slotOf?_eq_some_iff.mp ht
    rw [Option.bind_some, Option.bind_some]
    by_cases he : s = t
    · subst he
      rw [get_set_self, hfree, hs s hfree, if_pos rfl]
      rfl
    · have hne : Slot.name t ≠ Slot.name s := by
        intro heq
        rw [heq, slotOf?_name, Option.some.injEq] at ht
        exact he ht
      rw [get_set_of_ne _ he, if_neg hne, List.append_nil]

lemma seated_seat {h : Headers} (hs : Seated h) (s : Slot) (v : String) : Seated (seat h s v) := by
  intro t ht
  by_cases he : s = t
  · subst he
    rw [seat, get_set_self] at ht
    cases ht
  · rw [seat, get_set_of_ne _ he] at ht
    exact hs t ht

lemma seated_insert {h : Headers} (hs : Seated h) (n v : String) : Seated (h.insert n v) := by
  rcases insert_cases h n v with ⟨hinsert, hfull⟩ | ⟨s, -, -, hinsert⟩
  · rw [hinsert]
    exact seated_pushOther hs v hfull
  · rw [hinsert]
    exact seated_seat hs s v

lemma valuesOf_insert {h : Headers} (hs : Seated h) (n v name : String) :
    valuesOf (h.insert n v) name = valuesOf h name ++ if name = Text.lower n then [v] else [] := by
  rcases insert_cases h n v with ⟨hinsert, -⟩ | ⟨s, hname, hfree, hinsert⟩
  · rw [hinsert, valuesOf_pushOther]
  · rw [hinsert, valuesOf_seat hs hfree, hname]

lemma get_of_seated {h : Headers} (hs : Seated h) (s : Slot) :
    h.slots.get s = (valuesOf h (Slot.name s)).head? := by
  rw [valuesOf, slotOf?_name, Option.bind_some]
  cases hv : h.slots.get s with
  | none =>
    rw [hs s hv]
    rfl
  | some v => rfl

lemma get?_eq (h : Headers) (name : String) : h.get? name = (valuesOf h (Text.lower name)).head? := by
  rw [Headers.get?, valuesOf]
  cases (slotOf? (Text.lower name)).bind h.slots.get with
  | some v => rfl
  | none =>
    dsimp only
    rw [Option.toList_none, List.nil_append, named, List.head?_map, List.head?_filter,
      Array.find?_toList]

def keep (h : Headers) (p : String × ByteArray) : Headers :=
  match String.fromUTF8? p.2 with
  | some s => h.insert p.1 s
  | none => h

lemma foldl_keep {h : Headers} (hs : Seated h) {pairs : List (String × ByteArray)}
    (hl : ∀ p ∈ pairs, Text.lower p.1 = p.1) : Seated (pairs.foldl keep h) ∧
      ∀ name, valuesOf (pairs.foldl keep h) name =
        valuesOf h name ++ (named pairs name).filterMap String.fromUTF8? := by
  induction pairs generalizing h with
  | nil => exact ⟨hs, fun name => (List.append_nil _).symm⟩
  | cons p pairs ih =>
    obtain ⟨n, v⟩ := p
    obtain ⟨hn, hl⟩ := List.forall_mem_cons.mp hl
    rw [List.foldl_cons]
    cases hv : String.fromUTF8? v with
    | none =>
      have hkeep : keep h (n, v) = h := by simp [keep, hv]
      obtain ⟨hseated, hvalues⟩ := ih hs hl
      rw [hkeep]
      refine ⟨hseated, ?_⟩
      intro name
      rw [hvalues, named_cons, List.filterMap_append]
      split <;> simp [hv]
    | some text =>
      have hkeep : keep h (n, v) = h.insert n text := by simp [keep, hv]
      obtain ⟨hseated, hvalues⟩ := ih (seated_insert hs n text) hl
      rw [hkeep]
      refine ⟨hseated, ?_⟩
      intro name
      rw [hvalues, valuesOf_insert hs, hn, named_cons, List.filterMap_append, List.append_assoc]
      split <;> simp [hv]

lemma seated_ofMap {m : Map} (hm : Proper m) : Seated (.ofMap m) ∧
    ∀ name, valuesOf (.ofMap m) name = (m.values name).filterMap String.fromUTF8? := by
  have hlower : ∀ p ∈ m.toList, Text.lower p.1 = p.1 := by
    intro p hp
    obtain ⟨g, hg, hp⟩ := List.mem_flatMap.mp hp
    obtain ⟨v, -, rfl⟩ := List.mem_map.mp hp
    exact (hm.names g hg).2
  obtain ⟨hseated, hvalues⟩ := foldl_keep seated_empty hlower
  refine ⟨hseated, ?_⟩
  intro name
  rw [← named_toList hm.distinct]
  exact (hvalues name).trans (by rw [valuesOf_empty, List.nil_append])

def slotPairs (h : Headers) (slots : List Slot) : List (String × String) :=
  slots.filterMap fun s => (h.slots.get s).map (Slot.name s, ·)

lemma pairs_eq (h : Headers) : h.pairs = slotPairs h (List.finRange 30) ++ h.others.toList := by
  rw [Headers.pairs, Headers.declared, List.map_filterMap, slotPairs]
  simp only [Option.map_map, Function.comp_def]

lemma length_pairs (h : Headers) : h.pairs.length = h.size := by
  simp [Headers.pairs, Headers.size]

lemma split_slots (s : Slot) : ∃ front back : List Slot, (∀ t ∈ front, s ≠ t) ∧
    (∀ t ∈ back, s ≠ t) ∧ List.finRange 30 = front ++ s :: back := by
  obtain ⟨front, back, hall⟩ := List.append_of_mem (List.mem_finRange s)
  have hnodup := List.nodup_finRange 30
  rw [hall, List.nodup_middle, List.nodup_cons, List.mem_append, not_or] at hnodup
  obtain ⟨⟨hfront, hback⟩, -⟩ := hnodup
  exact ⟨front, back, fun t ht => (ne_of_mem_of_not_mem ht hfront).symm,
    fun t ht => (ne_of_mem_of_not_mem ht hback).symm, hall⟩

lemma named_slotPairs {h : Headers} {slots : List Slot} {name : String}
    (hn : ∀ s ∈ slots, Slot.name s ≠ name) : named (slotPairs h slots) name = [] := by
  induction slots with
  | nil => rfl
  | cons s slots ih =>
    obtain ⟨hs, hslots⟩ := List.forall_mem_cons.mp hn
    rw [slotPairs, List.filterMap_cons]
    cases h.slots.get s with
    | none => exact ih hslots
    | some v =>
      rw [Option.map_some, named, List.filter_cons_of_neg (by simpa using hs)]
      exact ih hslots

lemma slotPairs_append (h : Headers) (front back : List Slot) :
    slotPairs h (front ++ back) = slotPairs h front ++ slotPairs h back := List.filterMap_append

lemma slotPairs_cons (h : Headers) (s : Slot) (slots : List Slot) : slotPairs h (s :: slots) =
    ((h.slots.get s).map (Slot.name s, ·)).toList ++ slotPairs h slots := by
  rw [slotPairs, List.filterMap_cons]
  cases h.slots.get s <;> rfl

lemma named_pairs (h : Headers) (name : String) : named h.pairs name = valuesOf h name := by
  rw [pairs_eq, named_append, valuesOf]
  congr 1
  cases hs : slotOf? name with
  | none =>
    apply named_slotPairs
    intro s _ he
    rw [slotOf?_eq_some_iff.mpr he] at hs
    cases hs
  | some s =>
    obtain rfl := slotOf?_eq_some_iff.mp hs
    have hother {slots : List Slot} (hslots : ∀ t ∈ slots, s ≠ t) :
        named (slotPairs h slots) (Slot.name s) = [] := by
      apply named_slotPairs
      intro t ht he
      rw [slotOf?_eq_some_iff.mpr he, Option.some.injEq] at hs
      exact hslots t ht hs.symm
    obtain ⟨front, back, hfront, hback, hall⟩ := split_slots s
    rw [hall, slotPairs_append, slotPairs_cons, named_append, named_append, hother hfront,
      hother hback, List.nil_append, List.append_nil, Option.bind_some]
    cases h.slots.get s with
    | none => rfl
    | some v => simp [named]

lemma get_removeHopByHop (h : Headers) (s : Slot) : h.removeHopByHop.slots.get s =
    if Slot.name s ∈ hopByHop then none else h.slots.get s := Vector.getElem_ofFn ..

lemma others_removeHopByHop (h : Headers) :
    h.removeHopByHop.others.toList = h.others.toList.filter (·.1 ∉ hopByHop) := by
  rw [Headers.removeHopByHop, Array.toList_filter]

lemma declared_removeHopByHop (h : Headers) :
    h.removeHopByHop.declared = h.declared.filter (Slot.name ·.1 ∉ hopByHop) := by
  rw [Headers.declared, Headers.declared, List.filter_filterMap]
  apply List.filterMap_congr
  intro s _
  rw [get_removeHopByHop]
  by_cases hs : Slot.name s ∈ hopByHop
  · cases h.slots.get s <;> simp [hs, Option.filter]
  · cases h.slots.get s <;> simp [hs, Option.filter]

lemma pairs_removeHopByHop (h : Headers) :
    h.removeHopByHop.pairs = h.pairs.filter (·.1 ∉ hopByHop) := by
  rw [Headers.pairs, Headers.pairs, declared_removeHopByHop, others_removeHopByHop, List.filter_append,
    List.filter_map]
  rfl

lemma valuesOf_removeHopByHop (h : Headers) (name : String) :
    valuesOf h.removeHopByHop name = if name ∈ hopByHop then [] else valuesOf h name := by
  rw [← named_pairs, ← named_pairs, pairs_removeHopByHop, named, named, List.filter_filter]
  by_cases hn : name ∈ hopByHop
  · have hnone : h.pairs.filter (fun p => p.1 == name && decide (p.1 ∉ hopByHop)) = [] := by
      rw [List.filter_eq_nil_iff]
      rintro p - hp
      simp only [Bool.and_eq_true, beq_iff_eq, decide_eq_true_eq] at hp
      exact hp.2 (hp.1 ▸ hn)
    rw [if_pos hn, hnone, List.map_nil]
  · rw [if_neg hn]
    congr 1
    apply List.filter_congr
    intro p _
    by_cases hp : p.1 = name
    · simp [hp, hn]
    · simp [hp]

lemma size_removeHopByHop_le (h : Headers) : h.removeHopByHop.size ≤ h.size := by
  rw [← length_pairs, ← length_pairs, pairs_removeHopByHop]
  exact List.length_filter_le ..

lemma slotPairs_seat (h : Headers) {s : Slot} (v : String) {slots : List Slot}
    (hs : ∀ t ∈ slots, s ≠ t) : slotPairs (seat h s v) slots = slotPairs h slots := by
  apply List.filterMap_congr
  intro t ht
  rw [seat, get_set_of_ne _ (hs t ht)]

lemma size_insert (h : Headers) (n v : String) : (h.insert n v).size = h.size + 1 := by
  rcases insert_cases h n v with ⟨hinsert, -⟩ | ⟨s, -, hfree, hinsert⟩
  · rw [hinsert, Headers.size, Headers.pushOther, Array.size_push, ← Nat.add_assoc]
    rfl
  · obtain ⟨front, back, hfront, hback, hall⟩ := split_slots s
    have hseat : (seat h s v).slots.get s = some v := get_set_self ..
    rw [hinsert, ← length_pairs, ← length_pairs, pairs_eq, pairs_eq, hall, slotPairs_append,
      slotPairs_append, slotPairs_cons, slotPairs_cons, slotPairs_seat h v hfront,
      slotPairs_seat h v hback, hseat, hfree]
    simp only [seat, Option.map_some, Option.map_none, Option.toList_some, Option.toList_none,
      List.length_append, List.length_cons, List.length_nil]
    omega

lemma size_keep_le (h : Headers) (p : String × ByteArray) : (keep h p).size ≤ h.size + 1 := by
  rw [keep]
  split
  · exact Nat.le_of_eq (size_insert ..)
  · exact Nat.le_succ _

lemma size_foldl_keep_le (h : Headers) (pairs : List (String × ByteArray)) :
    (pairs.foldl keep h).size ≤ h.size + pairs.length := by
  induction pairs generalizing h with
  | nil => exact Nat.le_refl _
  | cons p pairs ih =>
    have hkeep := size_keep_le h p
    have hrest := ih (keep h p)
    rw [List.foldl_cons, List.length_cons]
    omega

lemma size_ofMap_le (m : Map) : (Headers.ofMap m).size ≤ m.toList.length :=
  Nat.le_trans (size_foldl_keep_le .empty m.toList) (Nat.le_of_eq (Nat.zero_add _))

def Mapped (p : String × String) : Prop :=
  isName p.1 = true ∧ Text.lower p.1 = p.1 ∧ isValue p.2.toUTF8 = true

def taken (pairs : List (String × String)) (name : String) : List ByteArray :=
  (pairs.filter fun p => isName p.1 && isValue p.2.toUTF8 && Text.lower p.1 == name).map (·.2.toUTF8)

lemma taken_cons (n v : String) (pairs : List (String × String)) (name : String) :
    taken ((n, v) :: pairs) name =
      (if isName n && isValue v.toUTF8 && Text.lower n == name then [v.toUTF8] else []) ++
        taken pairs name := by
  rw [taken, List.filter_cons]
  split <;> rfl

lemma taken_of_mapped {pairs : List (String × String)} (hp : ∀ p ∈ pairs, Mapped p) (name : String) :
    taken pairs name = (named pairs name).map String.toUTF8 := by
  rw [named, List.map_map, taken]
  congr 1
  apply List.filter_congr
  intro p hmem
  obtain ⟨hname, hlower, hvalue⟩ := hp p hmem
  rw [hname, hlower, hvalue]
  rfl

def put (m : Map) (p : String × String) : Map := (m.append? p.1 p.2.toUTF8).getD m

lemma values_put (m : Map) (n v name : String) : (put m (n, v)).values name = m.values name ++
    if isName n && isValue v.toUTF8 && Text.lower n == name then [v.toUTF8] else [] := by
  rw [put, Map.append?]
  cases hok : isName n && isValue v.toUTF8 with
  | false => exact (List.append_nil _).symm
  | true =>
    rw [if_pos rfl, Option.getD_some, values_append, Bool.true_and]
    by_cases hn : name = Text.lower n
    · rw [if_pos hn, if_pos (beq_iff_eq.mpr hn.symm)]
    · rw [if_neg hn, if_neg fun h => hn (beq_iff_eq.mp h).symm]

lemma values_foldl (pairs : List (String × String)) (m : Map) (name : String) :
    (pairs.foldl put m).values name = m.values name ++ taken pairs name := by
  induction pairs generalizing m with
  | nil => exact (List.append_nil _).symm
  | cons p pairs ih =>
    obtain ⟨n, v⟩ := p
    rw [List.foldl_cons, ih, values_put, taken_cons, List.append_assoc]

lemma proper_foldl {pairs : List (String × String)} {m : Map} (hm : Proper m) :
    Proper (pairs.foldl put m) := by
  induction pairs generalizing m with
  | nil => exact hm
  | cons p pairs ih =>
    rw [List.foldl_cons]
    apply ih
    rw [put]
    cases ha : m.append? p.1 p.2.toUTF8 with
    | none => exact hm
    | some m' => exact proper_append? hm ha

lemma toMap_of_few {h : Headers} (hsize : h.size ≤ Headers.maxMapPairs) :
    ∃ m, h.toMap = .ok m ∧ Proper m ∧ ∀ name, m.values name = taken h.pairs name := by
  rw [Headers.toMap, if_neg (Nat.not_lt.mpr hsize)]
  exact ⟨_, rfl, proper_foldl proper_empty, values_foldl h.pairs .empty⟩

def Filled (m : Map) : Prop := ∀ name, m.contains name = true → m.values name ≠ []

lemma filled_empty : Filled .empty := by
  intro name hname
  rw [contains_empty] at hname
  cases hname

lemma filled_append {m : Map} (hm : Filled m) (n : String) (v : ByteArray) :
    Filled (m.append n v) := by
  intro name hname
  rw [values_append]
  rcases (contains_append v).mp hname with hold | rfl
  · exact List.append_ne_nil_of_left_ne_nil (hm name hold) _
  · rw [if_pos rfl]
    exact List.concat_ne_nil v _

lemma filled_foldl {pairs : List (String × String)} {m : Map} (hm : Filled m) :
    Filled (pairs.foldl put m) := by
  induction pairs generalizing m with
  | nil => exact hm
  | cons p pairs ih =>
    rw [List.foldl_cons]
    apply ih
    rw [put, Map.append?]
    split
    · exact filled_append hm _ _
    · exact hm

lemma contains_toMap {h : Headers} {m : Map} (hm : h.toMap = .ok m) (name : String) :
    m.contains name = true ↔ m.values name ≠ [] := by
  rw [Headers.toMap] at hm
  split at hm
  · cases hm
  · cases hm
    exact ⟨filled_foldl filled_empty name, contains_of_values⟩

lemma toMap_of_mapped {h : Headers} (hp : ∀ p ∈ h.pairs, Mapped p)
    (hsize : h.size ≤ Headers.maxMapPairs) : ∃ m, h.toMap = .ok m ∧ Proper m ∧
      ∀ name, m.values name = (valuesOf h name).map String.toUTF8 := by
  obtain ⟨m, hm, hproper, hvalues⟩ := toMap_of_few hsize
  refine ⟨m, hm, hproper, ?_⟩
  intro name
  rw [hvalues, taken_of_mapped hp, named_pairs]

lemma mem_values {m : Map} (hm : Proper m) {name : String} {v : ByteArray} (hv : v ∈ m.values name) :
    isName name = true ∧ Text.lower name = name ∧ isValue v = true := by
  rw [values_eq] at hv
  cases hg : find m.groups.toList name with
  | none =>
    rw [hg] at hv
    cases hv
  | some g =>
    rw [hg] at hv
    obtain ⟨hmem, rfl⟩ := (find_eq_some_iff hm.distinct).mp hg
    exact ⟨(hm.names g hmem).1, (hm.names g hmem).2, hm.values g hmem v hv⟩

lemma mapped_ofMap {m : Map} (hm : Proper m) : ∀ p ∈ (Headers.ofMap m).pairs, Mapped p := by
  rintro ⟨name, value⟩ hp
  have hmem : value ∈ named (Headers.ofMap m).pairs name :=
    List.mem_map.mpr ⟨_, List.mem_filter.mpr ⟨hp, by simp⟩, rfl⟩
  rw [named_pairs, (seated_ofMap hm).2] at hmem
  obtain ⟨v, hv, htext⟩ := List.mem_filterMap.mp hmem
  rw [fromUTF8?_eq_some_iff.mp htext] at hv
  exact mem_values hm hv

def isText (v : ByteArray) : Bool := (String.fromUTF8? v).isSome

lemma map_toUTF8_filterMap (values : List ByteArray) :
    (values.filterMap String.fromUTF8?).map String.toUTF8 = values.filter isText := by
  induction values with
  | nil => rfl
  | cons v values ih =>
    cases hv : String.fromUTF8? v with
    | none => simp [hv, ih, isText]
    | some text =>
      rw [List.filterMap_cons_some hv, List.map_cons, ih, ← fromUTF8?_eq_some_iff.mp hv,
        List.filter_cons_of_pos (by simp [isText, hv])]

def passed (m : Map) (name : String) : List ByteArray :=
  if name ∈ hopByHop then [] else (m.values name).filter isText

end TwoHop.Proofs.Header.Values
