import TwoHop.Proofs.Header.Capacity
import TwoHop.Proofs.Header.Insertion
import TwoHop.Proofs.Wire.Acceptance

/-! What headers say about a single connection is taken out of them, in whatever way it got in, and
nothing else is. -/

namespace TwoHop.Proofs.Header.Sifting

open TwoHop.Field TwoHop.Header
open Text.Letters Maps Values Capacity Insertion
open Wire.Fields Wire.Format Wire.Rules Wire.Decoders Wire.HeaderFields Wire.RoundTrip
open Wire.Envelopes Wire.Reencoding Wire.Acceptance

def IsHopByHop (name : String) : Prop := ∃ hop ∈ hopByHop, Text.sameIgnoringCase name hop = true

lemma lower_hop : ∀ hop ∈ hopByHop, Text.lower hop = hop := by
  simp only [lower_eq_iff]
  decide

lemma isHopByHop_iff {name : String} : IsHopByHop name ↔ Text.lower name ∈ hopByHop := by
  constructor
  · rintro ⟨hop, hmem, hsame⟩
    rw [Text.sameIgnoringCase, beq_iff_eq, lower_hop hop hmem] at hsame
    rwa [hsame]
  · intro hmem
    refine ⟨_, hmem, ?_⟩
    rw [Text.sameIgnoringCase, beq_iff_eq, lower_lower]

lemma isHopByHop_lower {name : String} : IsHopByHop (Text.lower name) ↔ IsHopByHop name := by
  rw [isHopByHop_iff, isHopByHop_iff, lower_lower]

instance (name : String) : Decidable (IsHopByHop name) := decidable_of_iff' _ isHopByHop_iff

def lasting (f : Field) : Bool := (nameIn? f).all (· ∉ hopByHop)

lemma ext_headers {g h : Headers} (hslots : ∀ s : Slot, g.slots.get s = h.slots.get s)
    (hothers : g.others.toList = h.others.toList) : g = h := by
  obtain ⟨slots, others⟩ := g
  obtain ⟨slots', others'⟩ := h
  obtain rfl : others = others' := Array.toList_inj.mp hothers
  obtain rfl : slots = slots' := Vector.ext fun i hi => hslots ⟨i, hi⟩
  rfl

lemma removeHopByHop_removeHopByHop (h : Headers) :
    h.removeHopByHop.removeHopByHop = h.removeHopByHop := by
  apply ext_headers
  · intro s
    rw [get_removeHopByHop, get_removeHopByHop]
    split <;> rfl
  · rw [others_removeHopByHop, others_removeHopByHop, List.filter_filter]
    simp only [Bool.and_self]

lemma removeHopByHop_empty : Headers.empty.removeHopByHop = .empty := by
  apply ext_headers
  · intro s
    have hnone : Headers.empty.slots.get s = none := Vector.getElem_replicate ..
    rw [get_removeHopByHop, hnone, ite_self]
  · rfl

lemma removeHopByHop_pushOther (h : Headers) (n v : String) : (h.pushOther n v).removeHopByHop =
    if n ∈ hopByHop then h.removeHopByHop else h.removeHopByHop.pushOther n v := by
  by_cases hn : n ∈ hopByHop
  · rw [if_pos hn]
    apply ext_headers
    · intro s
      rw [get_removeHopByHop, get_removeHopByHop, slots_pushOther]
    · rw [others_removeHopByHop, others_removeHopByHop, others_pushOther, List.filter_append,
        List.filter_cons_of_neg (by simpa using hn), List.filter_nil, List.append_nil]
  · rw [if_neg hn]
    apply ext_headers
    · intro s
      rw [get_removeHopByHop, slots_pushOther, slots_pushOther, get_removeHopByHop]
    · rw [others_removeHopByHop, others_pushOther, others_pushOther, others_removeHopByHop,
        List.filter_append, List.filter_cons_of_pos (by simpa using hn), List.filter_nil]

lemma removeHopByHop_seat (h : Headers) (s : Slot) (v : String) : (seat h s v).removeHopByHop =
    if Slot.name s ∈ hopByHop then h.removeHopByHop else seat h.removeHopByHop s v := by
  by_cases hs : Slot.name s ∈ hopByHop
  · rw [if_pos hs]
    apply ext_headers
    · intro t
      rw [get_removeHopByHop, get_removeHopByHop, seat]
      by_cases ht : s = t
      · rw [← ht, if_pos hs, if_pos hs]
      · rw [get_set_of_ne _ ht]
    · rw [others_removeHopByHop, others_removeHopByHop, seat]
  · rw [if_neg hs]
    apply ext_headers
    · intro t
      rw [get_removeHopByHop, seat, seat]
      by_cases ht : s = t
      · rw [← ht, get_set_self, get_set_self, if_neg hs]
      · rw [get_set_of_ne _ ht, get_set_of_ne _ ht, get_removeHopByHop]
    · rw [others_removeHopByHop, seat, seat, others_removeHopByHop]

lemma get_kept (h : Headers) {s : Slot} (hs : Slot.name s ∉ hopByHop) :
    h.removeHopByHop.slots.get s = h.slots.get s := by
  rw [get_removeHopByHop, if_neg hs]

lemma removeHopByHop_insert (h : Headers) (n v : String) : (h.insert n v).removeHopByHop =
    if Text.lower n ∈ hopByHop then h.removeHopByHop else h.removeHopByHop.insert n v := by
  -- Sifting leaves the slots of all other names as they are, so the value goes the same way.
  rcases insert_cases h n v with ⟨hinsert, hfull⟩ | ⟨s, hname, hfree, hinsert⟩
  · rw [hinsert, removeHopByHop_pushOther]
    split
    · rfl
    · next hn =>
      refine (insert_of_full ?_ v).symm
      intro s hname
      rw [get_kept h (hname ▸ hn)]
      exact hfull s hname
  · rw [hinsert, removeHopByHop_seat, hname]
    split
    · rfl
    · next hn =>
      refine (insert_of_free hname ?_ v).symm
      rw [get_kept h (hname ▸ hn), hfree]

lemma lasting_slot (s : Slot) (v : String) :
    lasting (slotField (s, v)) = decide (Slot.name s ∉ hopByHop) := by
  rw [lasting, slotField, nameIn?_slot, Option.all_some]

lemma lasting_message {b : ByteArray} {name : Option String} {v : String}
    (hb : IsMessage .pair b (name, v)) :
    lasting ⟨undeclaredTag, b⟩ = (name.map Text.lower).all (· ∉ hopByHop) := by
  rw [lasting, nameIn?_pair hb]

lemma takeField_sifted {h t : Headers} {f : Field} (ht : Headers.takeField h f = .ok t) :
    (lasting f = true → Headers.takeField h.removeHopByHop f = .ok t.removeHopByHop) ∧
    (lasting f = false → t.removeHopByHop = h.removeHopByHop) := by
  rcases takeField_cases ht with ⟨s, value, rfl, rfl⟩ | ⟨b, name, value, rfl, hb, rfl⟩ |
    ⟨b, value, rfl, hb, rfl⟩ | ⟨hu, rfl⟩
  · have hlasting : lasting (.ofText s.tag value) = decide (Slot.name s ∉ hopByHop) :=
      lasting_slot s value
    have htake : Headers.takeField h.removeHopByHop (.ofText s.tag value) =
        .ok (h.removeHopByHop.insert s.name value) := takeField_slot _ s value
    rw [hlasting, htake, removeHopByHop_insert, lower_name, decide_eq_true_iff, decide_eq_false_iff_not,
      not_not]
    exact ⟨fun hs => by rw [if_neg hs], fun hs => if_pos hs⟩
  · have hlasting : lasting ⟨undeclaredTag, b⟩ = decide (Text.lower name ∉ hopByHop) :=
      lasting_message hb
    rw [hlasting, takeField_named _ hb, removeHopByHop_pushOther, decide_eq_true_iff, decide_eq_false_iff_not, not_not]
    exact ⟨fun hn => by rw [if_neg hn], fun hn => if_pos hn⟩
  · exact ⟨fun _ => takeField_nameless _ hb, fun _ => rfl⟩
  · exact ⟨fun _ => decoder_headers.steps.skips _ f hu, fun _ => rfl⟩

lemma foldlM_sifted {fs : List Field} {h t : Headers} (ht : fs.foldlM Headers.takeField h = .ok t) :
    (fs.filter lasting).foldlM Headers.takeField h.removeHopByHop = .ok t.removeHopByHop := by
  induction fs using List.reverseRecOn generalizing t with
  | nil =>
    cases ht
    rfl
  | append_singleton fs f ih =>
    obtain ⟨u, hu, hf⟩ := foldlM_concat.mp ht
    obtain ⟨hkept, hdropped⟩ := takeField_sifted hf
    rw [List.filter_append, List.filter_singleton]
    cases hl : lasting f with
    | true => exact foldlM_concat.mpr ⟨_, ih hu, hkept hl⟩
    | false =>
      rw [cond_false, List.append_nil, hdropped hl]
      exact ih hu

lemma decode_sifted {d : ByteArray} {h : Headers} (hd : Headers.decode d = .ok h) {fs : List Field}
    (hcut : Cut d fs) : Headers.decode (encodeAll (fs.filter lasting)) = .ok h.removeHopByHop := by
  have hkept : Cut (encodeAll (fs.filter lasting)) (fs.filter lasting) :=
    cut_of_sublist hcut.1 List.filter_sublist
  rw [Headers.decode, fold_of_cut hcut] at hd
  rw [Headers.decode, fold_of_cut hkept, ← removeHopByHop_empty]
  exact foldlM_sifted hd

def Small (p : String × String) : Prop :=
  p.1.toUTF8.size < UInt32.size ∧ p.2.toUTF8.size < UInt32.size

lemma small_of_surplus {fs : List Field} {pairs : List (String × String)} (hs : Surplus fs pairs)
    (hfits : ∀ f ∈ fs, Fits f) : ∀ p ∈ pairs, Small p := by
  induction hs with
  | nil => simp
  | slot _ _ ih | nameless _ _ ih | unknown _ _ ih => exact ih (List.forall_mem_append.mp hfits).1
  | @repeated fs pairs s value _ _ ih =>
    obtain ⟨hfs, hf⟩ := List.forall_mem_append.mp hfits
    refine List.forall_mem_append.mpr ⟨ih hfs, List.forall_mem_singleton.mpr ⟨?_, ?_⟩⟩
    · exact Nat.lt_of_le_of_lt (size_name_le s) (by decide)
    · exact hf _ (List.mem_singleton_self _)
  | @named fs pairs b name value _ hb ih =>
    obtain ⟨hfs, hf⟩ := List.forall_mem_append.mp hfits
    obtain ⟨hname, hvalue⟩ := size_pair_le hb
    have hsmall : b.size < UInt32.size := hf _ (List.mem_singleton_self _)
    refine List.forall_mem_append.mpr ⟨ih hfs, List.forall_mem_singleton.mpr ⟨?_, ?_⟩⟩
    · rw [size_lower]
      exact Nat.lt_of_le_of_lt hname hsmall
    · exact Nat.lt_of_le_of_lt hvalue hsmall

lemma isMessage_of_small {n v : String} (hp : Small (n, v)) :
    IsMessage .pair (Headers.pairBytes n v) (some n, v) := by
  refine decode_pair (some n, v) (List.forall_mem_cons.mpr ⟨hp.1, ?_⟩)
  exact List.forall_mem_singleton.mpr hp.2

lemma fields_removeHopByHop {h : Headers} (hl : Lowered h)
    (hsmall : ∀ p ∈ h.others.toList, Small p) :
    h.removeHopByHop.fields = h.fields.filter lasting := by
  rw [fields_eq, fields_eq, List.filter_append, List.filter_map, List.filter_map,
    declared_removeHopByHop, others_removeHopByHop]
  congr 2
  · apply List.filter_congr
    rintro ⟨s, v⟩ -
    rw [Function.comp_apply, lasting_slot]
  · apply List.filter_congr
    rintro ⟨n, v⟩ hp
    have hlower : Text.lower n = n := congrArg Prod.fst (hl _ (Array.mem_toList_iff.mp hp))
    -- The name is read back off the field, which holds it whole only because the pair is small.
    rw [Function.comp_apply, pairField, lasting_message (isMessage_of_small (hsmall _ hp)),
      Option.map_some, hlower, Option.all_some]

lemma pairs_sifted {h : Headers} (hl : Lowered h) :
    h.removeHopByHop.pairs = h.pairs.filter fun p => ¬ IsHopByHop p.1 := by
  rw [pairs_removeHopByHop]
  apply List.filter_congr
  intro p hp
  simp only [isHopByHop_iff, lower_of_mem_pairs hl hp]

lemma taken_sifted (pairs : List (String × String)) (name : String) :
    taken (pairs.filter fun p => ¬ IsHopByHop p.1) name =
      if IsHopByHop name then [] else taken pairs name := by
  have hsame : ∀ p : String × String, Text.lower p.1 = name → (IsHopByHop p.1 ↔ IsHopByHop name) := by
    rintro p rfl
    exact isHopByHop_lower.symm
  rw [taken, taken, List.filter_filter]
  split
  · next hname =>
    rw [List.map_eq_nil_iff, List.filter_eq_nil_iff]
    intro p _ hkept
    simp only [Bool.and_eq_true, beq_iff_eq, decide_eq_true_eq] at hkept
    exact hkept.2 ((hsame p hkept.1.2).mpr hname)
  · next hname =>
    congr 1
    apply List.filter_congr
    intro p _
    by_cases hp : Text.lower p.1 = name
    · have hrest : ¬ IsHopByHop p.1 := mt (hsame p hp).mp hname
      simp [hp, hrest]
    · simp [hp]

lemma toMap_sifted {h : Headers} (hl : Lowered h)
    (hfew : h.removeHopByHop.size ≤ Headers.maxMapPairs) : ∃ m, h.removeHopByHop.toMap = .ok m ∧
      (∀ name, m.contains name = true ↔ m.values name ≠ []) ∧
      ∀ name, m.values name = if IsHopByHop name then [] else taken h.pairs name := by
  obtain ⟨m, hm, -, hvalues⟩ := toMap_of_few hfew
  refine ⟨m, hm, contains_toMap hm, ?_⟩
  intro name
  rw [hvalues, pairs_sifted hl, taken_sifted]

structure Sifted (d : ByteArray) (h kept : Headers) : Prop where
  clean : ∀ p ∈ kept.pairs, ¬ IsHopByHop p.1
  rest : kept.pairs = h.pairs.filter fun p => ¬ IsHopByHop p.1
  mapped : kept.size ≤ 24576 → ∃ m, kept.toMap = .ok m ∧
    (∀ name, m.contains name = true ↔ m.values name ≠ []) ∧
    (∀ name, IsHopByHop name → m.contains name = false) ∧
    ∀ name, ¬ IsHopByHop name → m.values name = taken h.pairs name
  encoded : kept.encode = encodeAll (h.fields.filter lasting)
  decoded : ∀ fs, Cut d fs → Headers.decode (encodeAll (fs.filter lasting)) = .ok kept
  reread : (∀ f ∈ h.fields, Fits f) → Headers.decode h.encode = .ok h ∧
    Headers.decode kept.encode = .ok kept
  fits : d.size ≤ Frame.maxBody → ∀ f ∈ h.fields, Fits f

theorem decoded_sifted (h : Headers) : h.removeHopByHop.removeHopByHop = h.removeHopByHop ∧
    ∀ d, Headers.decode d = .ok h → Sifted d h h.removeHopByHop := by
  refine ⟨removeHopByHop_removeHopByHop h, ?_⟩
  intro d hd
  have hl : Lowered h := lowered_of_built (.decode hd)
  obtain ⟨gs, hcut, hreads⟩ := reads_of_decode (k := .headers) hd
  have hfields : h.removeHopByHop.fields = h.fields.filter lasting :=
    fields_removeHopByHop hl (small_of_surplus hreads.2 hcut.1)
  constructor
  case clean =>
    rw [pairs_sifted hl]
    intro p hp
    exact of_decide_eq_true (List.mem_filter.mp hp).2
  case rest => exact pairs_sifted hl
  case mapped =>
    intro hfew
    obtain ⟨m, hm, hcontains, hvalues⟩ := toMap_sifted hl hfew
    refine ⟨m, hm, hcontains, ?_, ?_⟩
    · intro name hname
      rw [Bool.eq_false_iff, Ne, hcontains, hvalues, if_pos hname, not_not]
    · intro name hname
      rw [hvalues, if_neg hname]
  case encoded => rw [Headers.encode, hfields]
  case decoded => exact fun fs hfs => decode_sifted hd hfs
  case reread =>
    intro hfits
    have hkept : ∀ f ∈ h.removeHopByHop.fields, Fits f := by
      rw [hfields]
      exact fun f hf => hfits f (List.mem_of_mem_filter hf)
    rw [decode_headers _ hfits, decode_headers _ hkept, lowerNames_of_lowered hl,
      lowerNames_of_lowered (lowered_removeHopByHop hl)]
    exact ⟨rfl, rfl⟩
  case fits => exact fields_fit (k := .headers) hd

def hostile : List Field :=
  [slotField (6, "close"), slotField (14, "db"), slotField (6, "x-a"), pairField ("TE", "trailers"),
    pairField ("Connection", "x-b"), pairField ("X-Id", "7")]

lemma decode_hostile : Headers.decode (encodeAll hostile) =
    .ok ((((((Headers.empty.insert "connection" "close").insert "host" "db").insert "connection"
      "x-a").pushOther (Text.lower "TE") "trailers").pushOther (Text.lower "Connection")
        "x-b").pushOther (Text.lower "X-Id") "7") := by
  have hsize : (encodeAll hostile).size < UInt32.size := by decide
  have hcut : Cut (encodeAll hostile) hostile := ⟨fits_of_size hsize, rfl⟩
  have hfits : ∀ f ∈ hostile, Fits f := hcut.1
  rw [Headers.decode, fold_of_cut hcut, hostile, foldlM_cons_of_ok (takeField_slot _ _ _),
    foldlM_cons_of_ok (takeField_slot _ _ _), foldlM_cons_of_ok (takeField_slot _ _ _),
    foldlM_cons_of_ok (takeField_pair _ (hfits _ (by simp [hostile]))),
    foldlM_cons_of_ok (takeField_pair _ (hfits _ (by simp [hostile]))),
    foldlM_cons_of_ok (takeField_pair _ (hfits _ (by simp [hostile])))]
  rfl

theorem decoded_sifted_hostile : ∃ h, Headers.decode (encodeAll hostile) = .ok h ∧ h.size = 6 ∧
    h.removeHopByHop.pairs = [("host", "db"), ("x-id", "7")] ∧
    Sifted (encodeAll hostile) h h.removeHopByHop := by
  refine ⟨_, decode_hostile, by decide +kernel, by decide +kernel, ?_⟩
  exact (decoded_sifted _).2 _ decode_hostile

end TwoHop.Proofs.Header.Sifting
