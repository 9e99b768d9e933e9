import Mathlib.Data.List.Nodup
import TwoHop.Proofs.Wire.Format

/-! A decoder that has one rule for each of its tags takes in what the rules take in, and what it
holds under a tag is what the last field with it says. -/

namespace TwoHop.Proofs.Wire.Rules

open TwoHop.Field
open Fields Format

variable {σ α : Type} {take : σ → Field → Except DecodeFault σ}

structure Rule (σ : Type) where
  tag : UInt8
  Read : Type
  read : Field → Except DecodeFault Read
  set : σ → Read → σ

def obey : List (Rule σ) → σ → Field → Except DecodeFault σ
  | [], s, _ => .ok s
  | r :: rules, s, f => if f.tag = r.tag then do return r.set s (← r.read f) else obey rules s f

structure Suits (r : Rule σ) (c : Column) : Prop where
  tag : r.tag = c.tag
  reads : ∀ f, (∃ a, r.read f = .ok a) ↔ Holds c.shape f.value
  nests : ∀ k, c.shape = .message k → ∀ f g, k.decode f.value = k.decode g.value → r.read f = r.read g

structure Steps (k : Kind) (take : σ → Field → Except DecodeFault σ) : Prop where
  accepts : ∀ s f, (∃ t, take s f = .ok t) ↔ ∀ c ∈ k.columns, c.tag = f.tag → Holds c.shape f.value
  skips : ∀ s f, Unknown k f.tag → take s f = .ok s
  nests : ∀ c ∈ k.columns, ∀ j, c.shape = .message j → ∀ v w, j.decode v = j.decode w →
    ∀ s, take s ⟨c.tag, v⟩ = take s ⟨c.tag, w⟩

lemma map_eq_ok_iff {f : α → σ} {x : Except DecodeFault α} {t : σ} :
    (do return f (← x)) = Except.ok t ↔ ∃ a, x = .ok a ∧ f a = t := by
  cases x with
  | error e => simp [bind, Except.bind]
  | ok a => simp [bind, Except.bind, pure, Except.pure]

lemma obey_skips {rules : List (Rule σ)} {f : Field} (h : ∀ r ∈ rules, r.tag ≠ f.tag) (s : σ) :
    obey rules s f = .ok s := by
  induction rules with
  | nil => rfl
  | cons r rules ih =>
    obtain ⟨hr, hrules⟩ := List.forall_mem_cons.mp h
    rw [obey, if_neg (Ne.symm hr), ih hrules]

lemma obey_eq_ok {rules : List (Rule σ)} {f : Field} {s t : σ} (h : obey rules s f = .ok t) :
    (∃ r ∈ rules, r.tag = f.tag ∧ ∃ a, r.read f = .ok a ∧ r.set s a = t) ∨
      ((∀ r ∈ rules, r.tag ≠ f.tag) ∧ t = s) := by
  induction rules with
  | nil =>
    cases h
    exact Or.inr ⟨by simp, rfl⟩
  | cons r rules ih =>
    rw [obey] at h
    split at h
    · next ht => exact Or.inl ⟨r, List.mem_cons_self, ht.symm, map_eq_ok_iff.mp h⟩
    · next ht =>
      rcases ih h with ⟨q, hq, hrest⟩ | ⟨hnone, rfl⟩
      · exact Or.inl ⟨q, List.mem_cons_of_mem r hq, hrest⟩
      · exact Or.inr ⟨List.forall_mem_cons.mpr ⟨Ne.symm ht, hnone⟩, rfl⟩

lemma obey_of_mem {rules : List (Rule σ)} (hn : (rules.map (·.tag)).Nodup) {r : Rule σ}
    (hr : r ∈ rules) {f : Field} (ht : f.tag = r.tag) (s : σ) :
    obey rules s f = do return r.set s (← r.read f) := by
  induction rules with
  | nil => cases hr
  | cons q rules ih =>
    rw [List.map_cons, List.nodup_cons] at hn
    rcases List.mem_cons.mp hr with rfl | hr
    · rw [obey, if_pos ht]
    · have hne : f.tag ≠ q.tag := by
        rw [ht]
        intro he
        exact hn.1 (List.mem_map.mpr ⟨r, hr, he⟩)
      rw [obey, if_neg hne, ih hn.2 hr]

lemma tags_of_suits {rules : List (Rule σ)} {columns : List Column}
    (h : List.Forall₂ Suits rules columns) : rules.map (·.tag) = columns.map (·.tag) := by
  induction h with
  | nil => rfl
  | cons hr _ ih => rw [List.map_cons, List.map_cons, hr.tag, ih]

lemma rule_of_suits {rules : List (Rule σ)} {columns : List Column}
    (h : List.Forall₂ Suits rules columns) {c : Column} (hc : c ∈ columns) :
    ∃ r ∈ rules, Suits r c := by
  induction h with
  | nil => cases hc
  | @cons r d rules columns hr _ ih =>
    rcases List.mem_cons.mp hc with rfl | hc
    · exact ⟨r, List.mem_cons_self, hr⟩
    · obtain ⟨q, hq, hs⟩ := ih hc
      exact ⟨q, List.mem_cons_of_mem r hq, hs⟩

lemma unruled_of_unknown {k : Kind} {rules : List (Rule σ)}
    (h : List.Forall₂ Suits rules k.columns) {tag : UInt8} (hu : Unknown k tag) :
    ∀ r ∈ rules, r.tag ≠ tag := by
  intro r hr he
  have hmem : r.tag ∈ k.columns.map (·.tag) := by
    rw [← tags_of_suits h]
    exact List.mem_map.mpr ⟨r, hr, rfl⟩
  obtain ⟨c, hc, hct⟩ := List.mem_map.mp hmem
  exact hu c hc (hct.trans he)

lemma steps_obey {k : Kind} {rules : List (Rule σ)} (h : List.Forall₂ Suits rules k.columns)
    (hn : (k.columns.map (·.tag)).Nodup) : Steps k (obey rules) where
  accepts := by
    intro s f
    rw [← tags_of_suits h] at hn
    constructor
    · rintro ⟨t, ht⟩ c hc he
      obtain ⟨r, hr, hs⟩ := rule_of_suits h hc
      rw [obey_of_mem hn hr (he.symm.trans hs.tag.symm)] at ht
      obtain ⟨a, ha, -⟩ := map_eq_ok_iff.mp ht
      exact (hs.reads f).mp ⟨a, ha⟩
    · intro hvalid
      by_cases hex : ∃ c ∈ k.columns, c.tag = f.tag
      · obtain ⟨c, hc, he⟩ := hex
        obtain ⟨r, hr, hs⟩ := rule_of_suits h hc
        obtain ⟨a, ha⟩ := (hs.reads f).mpr (hvalid c hc he)
        refine ⟨r.set s a, ?_⟩
        rw [obey_of_mem hn hr (he.symm.trans hs.tag.symm)]
        exact map_eq_ok_iff.mpr ⟨a, ha, rfl⟩
      · have hu : Unknown k f.tag := fun c hc he => hex ⟨c, hc, he⟩
        exact ⟨s, obey_skips (unruled_of_unknown h hu) s⟩
  skips := fun s f hu => obey_skips (unruled_of_unknown h hu) s
  nests := by
    intro c hc j hj v w hvw s
    rw [← tags_of_suits h] at hn
    obtain ⟨r, hr, hs⟩ := rule_of_suits h hc
    rw [obey_of_mem hn hr hs.tag.symm, obey_of_mem hn hr hs.tag.symm,
      hs.nests j hj ⟨c.tag, v⟩ ⟨c.tag, w⟩ hvw]

structure Governs (take : σ → Field → Except DecodeFault σ) (tag : UInt8) (get : σ → α)
    (means : ByteArray → α → Prop) : Prop where
  sets : ∀ {s f t}, take s f = .ok t → f.tag = tag → means f.value (get t)
  keeps : ∀ {s f t}, take s f = .ok t → f.tag ≠ tag → get t = get s

lemma governs_obey (rules : List (Rule σ)) (i : Nat) {r : Rule σ} {tag : UInt8} {get : σ → α}
    {means : ByteArray → α → Prop} (hr : rules[i]? = some r) (htag : r.tag = tag)
    (hn : (rules.map (·.tag)).Nodup)
    (hkeeps : ∀ q ∈ rules, q.tag ≠ tag → ∀ s a, get (q.set s a) = get s)
    (hsets : ∀ f s a, r.read f = .ok a → means f.value (get (r.set s a))) :
    Governs (obey rules) tag get means where
  sets := by
    intro s f t h ht
    have hmem : r ∈ rules := List.mem_of_getElem? hr
    rcases obey_eq_ok h with ⟨q, hq, he, a, ha, rfl⟩ | ⟨hnone, -⟩
    · obtain rfl : q = r := List.inj_on_of_nodup_map hn hq hmem (by rw [he, ht, htag])
      exact hsets f s a ha
    · exact absurd (htag.trans ht.symm) (hnone r hmem)
  keeps := by
    intro s f t h ht
    rcases obey_eq_ok h with ⟨q, hq, he, a, -, rfl⟩ | ⟨-, rfl⟩
    · exact hkeeps q hq (fun hqt => ht (he.symm.trans hqt)) s a
    · rfl

lemma foldlM_cons_of_ok {fs : List Field} {f : Field} {s t : σ} (h : take s f = .ok t) :
    (f :: fs).foldlM take s = fs.foldlM take t := by
  rw [List.foldlM_cons, h]
  rfl

lemma foldlM_concat {fs : List Field} {f : Field} {s t : σ} :
    (fs ++ [f]).foldlM take s = .ok t ↔ ∃ u, fs.foldlM take s = .ok u ∧ take u f = .ok t := by
  rw [List.foldlM_append]
  cases fs.foldlM take s with
  | error e => simp [bind, Except.bind]
  | ok u =>
    cases h : take u f with
    | error e => simp [bind, Except.bind, h]
    | ok t' => simp [bind, Except.bind, h, pure, Except.pure]

lemma last_concat (tag : UInt8) (fs : List Field) (f : Field) :
    last tag (fs ++ [f]) = if f.tag = tag then some f.value else last tag fs := by
  rw [last, List.reverse_append, List.reverse_singleton, List.singleton_append, first, List.find?_cons]
  by_cases h : f.tag = tag <;> simp [h, last, first]

lemma tells_cases {means : ByteArray → α → Prop} {default a : α} {x : Option ByteArray}
    (h : Tells means default x a) : (x = none ∧ a = default) ∨ ∃ b, x = some b ∧ means b a := by
  cases x with
  | none => exact Or.inl ⟨rfl, h⟩
  | some b => exact Or.inr ⟨b, rfl, h⟩

lemma tells_last {tag : UInt8} {get : σ → α} {means : ByteArray → α → Prop}
    (h : Governs take tag get means) {fs : List Field} {s t : σ} (ht : fs.foldlM take s = .ok t) :
    Tells means (get s) (last tag fs) (get t) := by
  induction fs using List.reverseRecOn generalizing t with
  | nil =>
    cases ht
    rfl
  | append_singleton fs f ih =>
    obtain ⟨u, hu, hf⟩ := foldlM_concat.mp ht
    rw [last_concat]
    by_cases he : f.tag = tag
    · rw [if_pos he]
      exact h.sets hf he
    · rw [if_neg he, h.keeps hf he]
      exact ih hu

lemma foldlM_accepts {k : Kind} (h : Steps k take) (fs : List Field) (s : σ) :
    (∃ t, fs.foldlM take s = .ok t) ↔
      ∀ f ∈ fs, ∀ c ∈ k.columns, c.tag = f.tag → Holds c.shape f.value := by
  induction fs generalizing s with
  | nil => exact ⟨by simp, fun _ => ⟨s, rfl⟩⟩
  | cons f fs ih =>
    rw [List.forall_mem_cons, List.foldlM_cons, ← h.accepts s f]
    constructor
    · rintro ⟨t, ht⟩
      cases hf : take s f with
      | error e => simp [hf, bind, Except.bind] at ht
      | ok u =>
        rw [hf] at ht
        exact ⟨⟨u, rfl⟩, (ih u).mp ⟨t, ht⟩⟩
    · rintro ⟨⟨u, hu⟩, hfs⟩
      rw [hu]
      exact (ih u).mpr hfs

end TwoHop.Proofs.Wire.Rules
