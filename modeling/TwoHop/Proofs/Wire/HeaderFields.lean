import TwoHop.Proofs.Text.Letters
import TwoHop.Proofs.Wire.Decoders

namespace TwoHop.Proofs.Wire.HeaderFields

open TwoHop.Field TwoHop.Header
open Text.Letters Fields Format Rules Values Decoders

lemma slotOf?_name (s : Slot) : slotOf? s.name = some s := by
  revert s
  decide +kernel

lemma lower_name (s : Slot) : Text.lower s.name = s.name := by
  rw [lower_eq_iff]
  revert s
  decide

lemma slotOfTag?_eq_some_iff {tag : UInt8} {s : Slot} : slotOfTag? tag = some s ↔ s.tag = tag := by
  constructor
  · intro h
    rw [slotOfTag?] at h
    split at h
    · next hle =>
      cases h
      apply UInt8.toNat_inj.mp
      simp only [Slot.tag, Nat.toUInt8_eq, UInt8.toNat_ofNat']
      omega
    · cases h
  · rintro rfl
    exact slotOfTag?_tag s

lemma tag_inj {s t : Slot} (h : s.tag = t.tag) : s = t := by
  have hs := slotOfTag?_tag s
  rw [h, slotOfTag?_tag] at hs
  exact (Option.some.inj hs).symm

lemma insert_name (h : Headers) (s : Slot) (value : String) : h.insert s.name value =
    if (h.slots.get s).isNone then { h with slots := h.slots.set s (some value) s.isLt }
    else { h with others := h.others.push (s.name, value) } := by
  simp only [Headers.insert, lower_name, slotOf?_name]

def pairRules : List (Rule (Option String × String)) :=
  [⟨1, String, Field.text, fun p name => (some name, p.2)⟩,
    ⟨2, String, Field.text, fun p value => (p.1, value)⟩]

lemma takePairField_eq : Headers.takePairField = obey pairRules := by
  funext p ⟨tag, value⟩
  simp only [Headers.takePairField, pairRules, obey]
  split
  · rfl
  · rfl
  · next h1 h2 => rw [if_neg h1, if_neg h2]

lemma pair_name : Governs Headers.takePairField 1 Prod.fst (Given IsText) := by
  rw [takePairField_eq]
  apply governs_obey pairRules 0 rfl rfl (by decide) (by simp [pairRules])
  exact fun f p name h => ⟨name, rfl, text_eq_ok_iff.mp h⟩

lemma pair_value : Governs Headers.takePairField 2 Prod.snd IsText := by
  rw [takePairField_eq]
  apply governs_obey pairRules 1 rfl rfl (by decide) (by simp [pairRules])
  exact fun f p value h => text_eq_ok_iff.mp h

lemma decoder_pair : Decoder .pair Headers.takePairField (none, "") .ok where
  decode_eq := fun b => (bind_ok _).symm
  steps := by
    rw [takePairField_eq]
    exact steps_obey (.cons suits_text (.cons suits_text .nil)) (by decide)
  finishes := fun _ => ⟨fun _ => by simp [Kind.columns], fun _ => ⟨_, rfl⟩⟩
  reads := by
    rintro fs t v ht ⟨⟩
    exact ⟨tells_last pair_name ht, tells_last pair_value ht⟩

def slotRule (s : Slot) : Rule Headers :=
  ⟨s.tag, String, Field.text, fun h value => h.insert s.name value⟩

def pairRule : Rule Headers where
  tag := undeclaredTag
  Read := Option String × String
  read f := Kind.pair.decode f.value
  set h
    | (some name, value) => h.pushOther (Text.lower name) value
    | (none, _) => h

def headerRules : List (Rule Headers) := (List.finRange 30).map slotRule ++ [pairRule]

lemma nodup_columns : (Kind.headers.columns.map (·.tag)).Nodup := by decide

lemma optional_columns : ∀ c ∈ Kind.headers.columns, c.required = false := by decide

lemma suits_headerRules : List.Forall₂ Suits headerRules Kind.headers.columns := by
  refine List.rel_append ?_ (.cons (suits_message fun b => accepts_iff decoder_pair) .nil)
  rw [List.forall₂_map_left_iff, List.forall₂_map_right_iff, List.forall₂_same]
  exact fun s _ => suits_text

lemma nodup_headerRules : (headerRules.map (·.tag)).Nodup := by
  rw [tags_of_suits suits_headerRules]
  exact nodup_columns

lemma pairRule_mem : pairRule ∈ headerRules := List.mem_append_right _ List.mem_cons_self

lemma takeField_eq : Headers.takeField = obey headerRules := by
  funext h f
  by_cases hu : f.tag = undeclaredTag
  · rw [obey_of_mem nodup_headerRules pairRule_mem hu, Headers.takeField, hu]
    show (do match ← fold Headers.takePairField f.value (none, "") with
      | (some name, value) => return h.pushOther (Text.lower name) value
      | (none, _) => return h) =
        do return pairRule.set h (← fold Headers.takePairField f.value (none, ""))
    cases fold Headers.takePairField f.value (none, "") with
    | error e => rfl
    | ok p =>
      obtain ⟨name, value⟩ := p
      cases name <;> rfl
  · have hu' : ¬ (f.tag == undeclaredTag) = true := by simpa using hu
    rw [Headers.takeField, if_neg hu']
    cases hs : slotOfTag? f.tag with
    | some s =>
      have hr : slotRule s ∈ headerRules :=
        List.mem_append_left _ (List.mem_map.mpr ⟨s, List.mem_finRange s, rfl⟩)
      rw [obey_of_mem nodup_headerRules hr (slotOfTag?_eq_some_iff.mp hs).symm]
      rfl
    | none =>
      refine (obey_skips ?_ h).symm
      intro r hr he
      rcases List.mem_append.mp hr with hr | hr
      · obtain ⟨s, -, rfl⟩ := List.mem_map.mp hr
        rw [slotOfTag?_eq_some_iff.mpr he] at hs
        cases hs
      · rw [List.mem_singleton.mp hr] at he
        exact hu he.symm

lemma takeField_message (h : Headers) {b : ByteArray} {p : Option String × String}
    (hb : IsMessage .pair b p) : Headers.takeField h ⟨undeclaredTag, b⟩ = .ok (pairRule.set h p) := by
  rw [takeField_eq, obey_of_mem nodup_headerRules pairRule_mem rfl]
  exact map_eq_ok_iff.mpr ⟨p, hb, rfl⟩

lemma takeField_named (h : Headers) {b : ByteArray} {name value : String}
    (hb : IsMessage .pair b (some name, value)) : Headers.takeField h ⟨undeclaredTag, b⟩ =
      .ok (h.pushOther (Text.lower name) value) := by
  rw [takeField_message h hb]
  rfl

lemma takeField_nameless (h : Headers) {b : ByteArray} {value : String}
    (hb : IsMessage .pair b (none, value)) : Headers.takeField h ⟨undeclaredTag, b⟩ = .ok h := by
  rw [takeField_message h hb]
  rfl

def slotField (p : Slot × String) : Field := .ofText p.1.tag p.2

def pairField (p : String × String) : Field := ⟨undeclaredTag, Headers.pairBytes p.1 p.2⟩

lemma size_pairBytes (name value : String) :
    (Headers.pairBytes name value).size = name.toUTF8.size + value.toUTF8.size + 10 := by
  simp only [Headers.pairBytes, size_encodeAll_cons, encodeAll_nil, Field.ofText, headSize,
    ByteArray.size_empty]
  omega

lemma fields_eq (h : Headers) :
    h.fields = h.declared.map slotField ++ h.others.toList.map pairField := rfl

lemma takeField_cases {h t : Headers} {f : Field} (ht : Headers.takeField h f = .ok t) :
    (∃ s value, f = .ofText (Slot.tag s) value ∧ t = h.insert s.name value) ∨
    (∃ b name value, f = ⟨undeclaredTag, b⟩ ∧ IsMessage .pair b (some name, value) ∧
      t = h.pushOther (Text.lower name) value) ∨
    (∃ b value, f = ⟨undeclaredTag, b⟩ ∧ IsMessage .pair b (none, value) ∧ t = h) ∨
    (Unknown .headers f.tag ∧ t = h) := by
  rw [takeField_eq] at ht
  obtain ⟨tag, b⟩ := f
  rcases obey_eq_ok ht with ⟨r, hr, he, a, ha, rfl⟩ | ⟨hnone, rfl⟩
  · rcases List.mem_append.mp hr with hr | hr
    · obtain ⟨s, -, rfl⟩ := List.mem_map.mp hr
      obtain rfl : s.tag = tag := he
      obtain rfl : b = a.toUTF8 := text_eq_ok_iff.mp ha
      exact Or.inl ⟨s, a, rfl, rfl⟩
    · obtain rfl := List.mem_singleton.mp hr
      obtain rfl : undeclaredTag = tag := he
      obtain ⟨name, value⟩ := a
      cases name with
      | some name => exact Or.inr (Or.inl ⟨b, name, value, rfl, ha, rfl⟩)
      | none => exact Or.inr (Or.inr (Or.inl ⟨b, value, rfl, ha, rfl⟩))
  · refine Or.inr (Or.inr (Or.inr ⟨?_, rfl⟩))
    intro c hc hct
    obtain ⟨r, hr, hs⟩ := rule_of_suits suits_headerRules hc
    exact hnone r hr (hs.tag.trans hct)

lemma first_concat (tag : UInt8) (fs : List Field) (f : Field) :
    first tag (fs ++ [f]) = (first tag fs).or (if f.tag = tag then some f.value else none) := by
  simp only [first, List.find?_append]
  cases fs.find? fun f => f.tag = tag with
  | some g => rfl
  | none => by_cases h : f.tag = tag <;> simp [h]

lemma first_concat_of_ne {tag : UInt8} {fs : List Field} {f : Field} (h : f.tag ≠ tag) :
    first tag (fs ++ [f]) = first tag fs := by
  rw [first_concat, if_neg h, Option.or_none]

lemma get_set_self (slots : Vector (Option String) 30) (s : Slot) (x : Option String) :
    (slots.set s x s.isLt).get s = x := Vector.getElem_set_self ..

lemma get_set_of_ne (slots : Vector (Option String) 30) {s t : Slot} (h : s ≠ t) {x : Option String} :
    (slots.set s x s.isLt).get t = slots.get t :=
  Vector.getElem_set_ne s.isLt t.isLt (fun he => h (Fin.ext he))

lemma slots_pushOther (h : Headers) (name value : String) :
    (h.pushOther name value).slots = h.slots := rfl

lemma others_pushOther (h : Headers) (name value : String) :
    (h.pushOther name value).others.toList = h.others.toList ++ [(name, value)] := by
  simp [Headers.pushOther]

lemma ne_tag_of_unknown {tag : UInt8} (h : Unknown .headers tag) (s : Slot) : tag ≠ s.tag := by
  rintro rfl
  refine h ⟨s.tag, .text, false⟩ ?_ rfl
  exact List.mem_append_left _ (List.mem_map.mpr ⟨s, List.mem_finRange s, rfl⟩)

lemma reads_concat {fs : List Field} {f : Field} {h t : Headers} (hr : Reads .headers fs h)
    (ht : Headers.takeField h f = .ok t) : Reads .headers (fs ++ [f]) t := by
  obtain ⟨hslots, hsurplus⟩ := hr
  rcases takeField_cases ht with ⟨s, value, rfl, rfl⟩ | ⟨b, name, value, rfl, hb, rfl⟩ |
    ⟨b, value, rfl, hb, rfl⟩ | ⟨hu, rfl⟩
  · rw [insert_name]
    cases hs : h.slots.get s with
    | none =>
      have hfirst : first s.tag fs = none := by rw [hslots, hs, Option.map_none]
      refine ⟨?_, .slot hsurplus hfirst⟩
      intro u
      simp only [Option.isNone_none, if_true]
      by_cases he : s = u
      · rw [← he, get_set_self, first_concat, hfirst]
        simp [Field.ofText]
      · rw [get_set_of_ne _ he, first_concat_of_ne (fun ht => he (tag_inj ht)), hslots]
    | some w =>
      have hfirst : first s.tag fs ≠ none := by
        rw [hslots, hs]
        simp
      refine ⟨?_, ?_⟩
      · intro u
        simp only [Option.isNone_some, Bool.false_eq_true, if_false]
        by_cases he : s = u
        · rw [← he, first_concat, hslots, hs]
          rfl
        · rw [first_concat_of_ne (fun ht => he (tag_inj ht)), hslots]
      · simpa using Surplus.repeated hsurplus hfirst
  · refine ⟨?_, ?_⟩
    · intro s
      rw [first_concat_of_ne (tag_ne_undeclaredTag s).symm, slots_pushOther, hslots]
    · rw [others_pushOther]
      exact .named hsurplus hb
  · refine ⟨?_, .nameless hsurplus hb⟩
    intro s
    rw [first_concat_of_ne (tag_ne_undeclaredTag s).symm, hslots]
  · refine ⟨?_, .unknown hsurplus hu⟩
    intro s
    rw [first_concat_of_ne (ne_tag_of_unknown hu s), hslots]

lemma reads_empty : Reads .headers [] Headers.empty := by
  refine ⟨?_, .nil⟩
  intro s
  have h : Headers.empty.slots.get s = none := Vector.getElem_replicate ..
  rw [h]
  rfl

lemma reads_foldlM {fs : List Field} {h : Headers}
    (hf : fs.foldlM Headers.takeField .empty = .ok h) : Reads .headers fs h := by
  induction fs using List.reverseRecOn generalizing h with
  | nil =>
    cases hf
    exact reads_empty
  | append_singleton fs f ih =>
    obtain ⟨u, hu, ht⟩ := foldlM_concat.mp hf
    exact reads_concat (ih hu) ht

lemma decoder_headers : Decoder .headers Headers.takeField .empty .ok where
  decode_eq := fun b => (bind_ok _).symm
  steps := by
    rw [takeField_eq]
    exact steps_obey suits_headerRules nodup_columns
  finishes := by
    intro fs t ht
    refine ⟨fun _ c hc hr => ?_, fun _ => ⟨t, rfl⟩⟩
    rw [optional_columns c hc] at hr
    cases hr
  reads := by
    rintro fs t v ht ⟨⟩
    exact reads_foldlM ht

end TwoHop.Proofs.Wire.HeaderFields
