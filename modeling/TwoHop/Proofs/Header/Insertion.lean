import TwoHop.Proofs.Header.Values
import TwoHop.Proofs.Wire.RoundTrip

/-! Headers keep every value that is put in, and under each name in the order in which they came,
whatever the letter case of the name. -/

namespace TwoHop.Proofs.Header.Insertion

open TwoHop.Header
open Text.Letters Maps Values
open Wire.Fields Wire.HeaderFields Wire.RoundTrip

def insertAll (pairs : List (String × String)) : Headers :=
  pairs.foldl (fun h p => h.insert p.1 p.2) .empty

def under (pairs : List (String × String)) (name : String) : List String :=
  (pairs.filter fun p => Text.sameIgnoringCase p.1 name).map (·.2)

structure Keeps (inserted : List (String × String)) (h : Headers) : Prop where
  size : h.size = inserted.length
  pairs : h.pairs.length = inserted.length
  values : ∀ name, under h.pairs name = under inserted name
  first : ∀ name, h.get? name = (under inserted name).head?
  slots : ∀ s : Slot, h.slots.get s = (under inserted s.name).head?

def spare (name : String) (values : List ByteArray) : List ByteArray :=
  if (slotOf? (Text.lower name)).isSome then values.tail else values

/-- The lengths on the wire have 32 bits. A value in a slot has them to itself, and any other one
shares them with its name and ten bytes around the two. -/
structure Short (values : String → List ByteArray) : Prop where
  value : ∀ name, ∀ v ∈ values name, v.size < UInt32.size
  pair : ∀ name, ∀ v ∈ spare name (values name), name.toUTF8.size + v.size + 10 < UInt32.size

lemma under_eq (pairs : List (String × String)) (name : String) :
    under pairs name = named (pairs.map lowerName) (Text.lower name) := by
  rw [named, List.filter_map, List.map_map]
  rfl

lemma lower_of_mem_pairs {h : Headers} (hl : Lowered h) {p : String × String} (hp : p ∈ h.pairs) :
    Text.lower p.1 = p.1 := by
  rcases List.mem_append.mp hp with hp | hp
  · obtain ⟨⟨s, value⟩, -, rfl⟩ := List.mem_map.mp hp
    exact lower_name s
  · exact congrArg Prod.fst (hl p (Array.mem_toList_iff.mp hp))

lemma under_pairs {h : Headers} (hl : Lowered h) (name : String) :
    under h.pairs name = valuesOf h (Text.lower name) := by
  have hlower : ∀ p ∈ h.pairs, lowerName p = p := by
    intro p hp
    rw [lowerName, lower_of_mem_pairs hl hp]
  rw [under_eq, List.map_congr_left hlower, List.map_id', named_pairs]

lemma insertAll_concat (pairs : List (String × String)) (p : String × String) :
    insertAll (pairs ++ [p]) = (insertAll pairs).insert p.1 p.2 := List.foldl_concat ..

lemma lowered_insertAll (pairs : List (String × String)) : Lowered (insertAll pairs) := by
  induction pairs using List.reverseRecOn with
  | nil => exact lowered_empty
  | append_singleton pairs p ih =>
    rw [insertAll_concat]
    exact lowered_insert ih p.1 p.2

lemma seated_insertAll (pairs : List (String × String)) : Seated (insertAll pairs) := by
  induction pairs using List.reverseRecOn with
  | nil => exact seated_empty
  | append_singleton pairs p ih =>
    rw [insertAll_concat]
    exact seated_insert ih p.1 p.2

lemma size_insertAll (pairs : List (String × String)) : (insertAll pairs).size = pairs.length := by
  induction pairs using List.reverseRecOn with
  | nil => rfl
  | append_singleton pairs p ih =>
    rw [insertAll_concat, size_insert, ih, List.length_append, List.length_singleton]

lemma valuesOf_insertAll (pairs : List (String × String)) (name : String) :
    valuesOf (insertAll pairs) name = named (pairs.map lowerName) name := by
  induction pairs using List.reverseRecOn with
  | nil => exact valuesOf_empty name
  | append_singleton pairs p ih =>
    rw [insertAll_concat, valuesOf_insert (seated_insertAll pairs), ih, List.map_append, named_append,
      List.map_singleton, lowerName, named_cons]
    exact congrArg _ (List.append_nil _).symm

lemma keeps_insertAll (pairs : List (String × String)) : Keeps pairs (insertAll pairs) where
  size := size_insertAll pairs
  pairs := by rw [length_pairs, size_insertAll]
  values := by
    intro name
    rw [under_pairs (lowered_insertAll pairs), valuesOf_insertAll, under_eq]
  first := by
    intro name
    rw [get?_eq, valuesOf_insertAll, under_eq]
  slots := by
    intro s
    rw [get_of_seated (seated_insertAll pairs), valuesOf_insertAll, under_eq, lower_name]

lemma mem_valuesOf {h : Headers} {name v : String} : v ∈ valuesOf h name ↔
    (∃ s : Slot, Slot.name s = name ∧ h.slots.get s = some v) ∨ (name, v) ∈ h.others := by
  have hothers : v ∈ named h.others.toList name ↔ (name, v) ∈ h.others := by
    simp [named]
  rw [valuesOf, List.mem_append, hothers, Option.mem_toList, Option.bind_eq_some_iff]
  simp only [slotOf?_eq_some_iff]

lemma spare_valuesOf {h : Headers} (hs : Seated h) (name : String) :
    spare name ((valuesOf h (Text.lower name)).map String.toUTF8) =
      (named h.others.toList (Text.lower name)).map String.toUTF8 := by
  rw [spare, valuesOf]
  cases hslot : slotOf? (Text.lower name) with
  | none => rfl
  | some s =>
    rw [if_pos Option.isSome_some, Option.bind_some, ← slotOf?_eq_some_iff.mp hslot]
    cases hv : h.slots.get s with
    | none =>
      rw [hs s hv]
      rfl
    | some w => rfl

lemma fits_slotField {s : Slot} {v : String} :
    Fits (slotField (s, v)) ↔ v.toUTF8.size < UInt32.size := Iff.rfl

lemma fits_pairField {p : String × String} :
    Fits (pairField p) ↔ p.1.toUTF8.size + p.2.toUTF8.size + 10 < UInt32.size := by
  rw [Fits, pairField, size_pairBytes]

lemma mem_declared {h : Headers} {s : Slot} {v : String} :
    (s, v) ∈ h.declared ↔ h.slots.get s = some v := by
  rw [Headers.declared, List.mem_filterMap]
  constructor
  · rintro ⟨t, -, ht⟩
    obtain ⟨w, hw, he⟩ := Option.map_eq_some_iff.mp ht
    cases he
    exact hw
  · intro hv
    exact ⟨s, List.mem_finRange s, by rw [hv, Option.map_some]⟩

lemma forall_mem_fields {h : Headers} {P : Field → Prop} : (∀ f ∈ h.fields, P f) ↔
    (∀ s v, h.slots.get s = some v → P (slotField (s, v))) ∧ ∀ p ∈ h.others, P (pairField p) := by
  rw [fields_eq, List.forall_mem_append, List.forall_mem_map, List.forall_mem_map]
  simp only [Prod.forall, mem_declared, Array.mem_toList_iff]

lemma fits_iff_short {h : Headers} (hs : Seated h) (hl : Lowered h) : (∀ f ∈ h.fields, Fits f) ↔
    Short fun name => (valuesOf h (Text.lower name)).map String.toUTF8 := by
  simp only [forall_mem_fields, fits_slotField, fits_pairField]
  constructor
  · rintro ⟨hslots, hothers⟩
    constructor
    case value =>
      intro name v hv
      obtain ⟨w, hw, rfl⟩ := List.mem_map.mp hv
      rcases mem_valuesOf.mp hw with ⟨s, -, hget⟩ | hmem
      · exact hslots s w hget
      · have hpair := hothers _ hmem
        dsimp only at hpair
        omega
    case pair =>
      intro name v hv
      rw [spare_valuesOf hs] at hv
      obtain ⟨w, hw, rfl⟩ := List.mem_map.mp hv
      rw [← size_lower name]
      exact hothers (Text.lower name, w) (by simpa [named] using hw)
  · rintro ⟨hvalue, hpair⟩
    refine ⟨?_, ?_⟩
    · intro s v hget
      apply hvalue (Slot.name s)
      rw [lower_name]
      exact List.mem_map_of_mem (mem_valuesOf.mpr (Or.inl ⟨s, rfl, hget⟩))
    · rintro ⟨name, v⟩ hmem
      apply hpair name
      have hlower : Text.lower name = name := congrArg Prod.fst (hl _ hmem)
      rw [spare_valuesOf hs, hlower]
      exact List.mem_map_of_mem (by simpa [named] using hmem)

lemma fits_insertAll_iff (pairs : List (String × String)) : (∀ f ∈ (insertAll pairs).fields, Fits f) ↔
    Short fun name => (under pairs name).map String.toUTF8 := by
  rw [fits_iff_short (seated_insertAll pairs) (lowered_insertAll pairs)]
  simp only [valuesOf_insertAll, under_eq]

theorem insertion_kept (pairs : List (String × String)) :
    Keeps pairs (insertAll pairs) ∧
    ((Short fun name => (under pairs name).map String.toUTF8) →
      ∃ h, Headers.decode (insertAll pairs).encode = .ok h ∧ Keeps pairs h) := by
  refine ⟨keeps_insertAll pairs, ?_⟩
  intro hshort
  have hfits := (fits_insertAll_iff pairs).mpr hshort
  refine ⟨insertAll pairs, ?_, keeps_insertAll pairs⟩
  rw [decode_headers _ hfits, lowerNames_of_lowered (lowered_insertAll pairs)]

def arrivals : List (String × String) :=
  [("Set-Cookie", "a=1"), ("X-Id", "7"), ("set-cookie", "b=2"), ("HOST", "db")]

theorem insertion_kept_arrivals : ∃ h, Headers.decode (insertAll arrivals).encode = .ok h ∧
    h.size = 4 ∧ under h.pairs "SET-COOKIE" = ["a=1", "b=2"] ∧ h.get? "SET-COOKIE" = some "a=1" ∧
    h.get? "x-ID" = some "7" := by
  have hupper : Text.lower "SET-COOKIE" = "set-cookie" := lower_eq_iff.mpr (by decide)
  have hmixed : Text.lower "Set-Cookie" = "set-cookie" := lower_eq_iff.mpr (by decide)
  have hlower : Text.lower "set-cookie" = "set-cookie" := lower_eq_iff.mpr (by decide)
  have hid : Text.lower "X-Id" = "x-id" := lower_eq_iff.mpr (by decide)
  have hid' : Text.lower "x-ID" = "x-id" := lower_eq_iff.mpr (by decide)
  have hhost : Text.lower "HOST" = "host" := lower_eq_iff.mpr (by decide)
  have hcookies : under arrivals "SET-COOKIE" = ["a=1", "b=2"] := by
    simp [under, arrivals, Text.sameIgnoringCase, hupper, hmixed, hlower, hid, hhost]
  have hids : under arrivals "x-ID" = ["7"] := by
    simp [under, arrivals, Text.sameIgnoringCase, hmixed, hlower, hid, hid', hhost]
  have hsize : (Field.encodeAll (insertAll arrivals).fields).size < UInt32.size := by decide +kernel
  have hshort := (fits_insertAll_iff arrivals).mp (fits_of_size hsize)
  obtain ⟨h, hdecode, hkeeps⟩ := (insertion_kept arrivals).2 hshort
  refine ⟨h, hdecode, hkeeps.size, ?_, ?_, ?_⟩
  · rw [hkeeps.values, hcookies]
  · rw [hkeeps.first, hcookies, List.head?_cons]
  · rw [hkeeps.first, hids, List.head?_cons]

end TwoHop.Proofs.Header.Insertion
