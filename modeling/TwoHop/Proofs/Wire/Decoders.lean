import TwoHop.Proofs.Wire.Rules
import TwoHop.Proofs.Wire.Values

namespace TwoHop.Proofs.Wire.Decoders

open TwoHop.Field
open Fields Format Rules Values

variable {σ : Type}

structure Decoder (k : Kind) (take : σ → Field → Except DecodeFault σ) (init : σ)
    (finish : σ → Except DecodeFault k.Value) : Prop where
  decode_eq : ∀ b, k.decode b = (fold take b init).bind finish
  steps : Steps k take
  finishes : ∀ {fs : List Field} {t : σ}, fs.foldlM take init = .ok t → ((∃ v, finish t = .ok v) ↔
    ∀ c ∈ k.columns, c.required = true → ∃ f ∈ fs, f.tag = c.tag)
  reads : ∀ {fs : List Field} {t : σ} {v : k.Value}, fs.foldlM take init = .ok t →
    finish t = .ok v → Reads k fs v

section

variable {k : Kind} {take : σ → Field → Except DecodeFault σ} {init : σ}
  {finish : σ → Except DecodeFault k.Value}

lemma bind_eq_ok_iff {ε α β : Type} {x : Except ε α} {f : α → Except ε β} {b : β} :
    x.bind f = .ok b ↔ ∃ a, x = .ok a ∧ f a = .ok b := by
  cases x <;> simp [Except.bind]

lemma decode_eq_ok_iff (h : Decoder k take init finish) {b : ByteArray} {v : k.Value} :
    k.decode b = .ok v ↔ ∃ fs t, Cut b fs ∧ fs.foldlM take init = .ok t ∧ finish t = .ok v := by
  rw [h.decode_eq, bind_eq_ok_iff]
  constructor
  · rintro ⟨t, ht, hv⟩
    obtain ⟨fs, hfs, hfold⟩ := fold_eq_ok_iff.mp ht
    exact ⟨fs, t, hfs, hfold, hv⟩
  · rintro ⟨fs, t, hfs, hfold, hv⟩
    exact ⟨t, fold_eq_ok_iff.mpr ⟨fs, hfs, hfold⟩, hv⟩

lemma holds_message_iff {b : ByteArray} : Holds (.message k) b ↔ ∃ fs, Cut b fs ∧
    (∀ f ∈ fs, ∀ c ∈ k.columns, c.tag = f.tag → Holds c.shape f.value) ∧
    ∀ c ∈ k.columns, c.required = true → ∃ f ∈ fs, f.tag = c.tag := by
  constructor
  · intro h
    cases h with
    | message hcut hvalid hrequired => exact ⟨_, hcut, hvalid, hrequired⟩
  · rintro ⟨fs, hcut, hvalid, hrequired⟩
    exact .message hcut hvalid hrequired

lemma accepts_iff (h : Decoder k take init finish) {b : ByteArray} :
    (∃ v, k.decode b = .ok v) ↔ Holds (.message k) b := by
  rw [holds_message_iff]
  constructor
  · rintro ⟨v, hv⟩
    obtain ⟨fs, t, hfs, ht, hfinish⟩ := (decode_eq_ok_iff h).mp hv
    exact ⟨fs, hfs, (foldlM_accepts h.steps fs init).mp ⟨t, ht⟩, (h.finishes ht).mp ⟨v, hfinish⟩⟩
  · rintro ⟨fs, hfs, hvalid, hrequired⟩
    obtain ⟨t, ht⟩ := (foldlM_accepts h.steps fs init).mpr hvalid
    obtain ⟨v, hv⟩ := (h.finishes ht).mpr hrequired
    exact ⟨v, (decode_eq_ok_iff h).mpr ⟨fs, t, hfs, ht, hv⟩⟩

lemma reads_of_cut (h : Decoder k take init finish) {b : ByteArray} {fs : List Field} {v : k.Value}
    (hfs : Cut b fs) (hv : k.decode b = .ok v) : Reads k fs v := by
  rw [h.decode_eq, fold_of_cut hfs, bind_eq_ok_iff] at hv
  obtain ⟨t, ht, hfinish⟩ := hv
  exact h.reads ht hfinish

end

section

variable {tag : UInt8} {required : Bool}

lemma suits_text {set : σ → String → σ} :
    Suits ⟨tag, String, Field.text, set⟩ ⟨tag, .text, required⟩ where
  tag := rfl
  reads := by
    intro f
    simp only [text_eq_ok_iff]
    constructor
    · rintro ⟨s, hs⟩
      rw [hs]
      exact .text s
    · intro h
      generalize f.value = b at h
      cases h
      exact ⟨_, rfl⟩
  nests := by
    intro k hk
    cases hk

lemma suits_number {width : Nat} {set : σ → Nat → σ} :
    Suits ⟨tag, Nat, fun f => f.nat width, set⟩ ⟨tag, .number width, required⟩ where
  tag := rfl
  reads := by
    intro f
    simp only [nat_eq_ok_iff]
    constructor
    · rintro ⟨n, hsize, -⟩
      exact .number hsize
    · intro h
      cases h with
      | number hsize => exact ⟨_, hsize, rfl⟩
  nests := by
    intro k hk
    cases hk

lemma suits_method {set : σ → Method → σ} :
    Suits ⟨tag, Method, Request.readMethod, set⟩ ⟨tag, .method, required⟩ where
  tag := rfl
  reads := by
    intro f
    simp only [readMethod_eq_ok_iff]
    constructor
    · rintro ⟨m, hm⟩
      rw [hm]
      exact .method m
    · intro h
      generalize f.value = b at h
      cases h
      exact ⟨_, rfl⟩
  nests := by
    intro k hk
    cases hk

lemma suits_version {set : σ → Version → σ} :
    Suits ⟨tag, Version, Request.readVersion, set⟩ ⟨tag, .version, required⟩ where
  tag := rfl
  reads := by
    intro f
    simp only [readVersion_eq_ok_iff]
    constructor
    · rintro ⟨v, hv⟩
      rw [hv]
      exact .version v
    · intro h
      generalize f.value = b at h
      cases h
      exact ⟨_, rfl⟩
  nests := by
    intro k hk
    cases hk

lemma suits_bytes {set : σ → ByteArray → σ} :
    Suits ⟨tag, ByteArray, fun f => .ok f.value, set⟩ ⟨tag, .bytes, required⟩ where
  tag := rfl
  reads := fun f => ⟨fun _ => .bytes f.value, fun _ => ⟨f.value, rfl⟩⟩
  nests := by
    intro k hk
    cases hk

lemma suits_message {k : Kind} (h : ∀ b, (∃ v, k.decode b = .ok v) ↔ Holds (.message k) b)
    {set : σ → k.Value → σ} :
    Suits ⟨tag, k.Value, fun f => k.decode f.value, set⟩ ⟨tag, .message k, required⟩ where
  tag := rfl
  reads := fun f => h f.value
  nests := by
    rintro j ⟨⟩ f g hfg
    exact hfg

end

lemma bind_ok {α : Type} (x : Except DecodeFault α) : x.bind .ok = x := by cases x <;> rfl

lemma last_eq_none_iff {fs : List Field} {tag : UInt8} :
    last tag fs = none ↔ ¬ ∃ f ∈ fs, f.tag = tag := by
  simp [last, first]

lemma exists_some_iff {α : Type} {means : ByteArray → α → Prop} {fs : List Field} {tag : UInt8}
    {a : Option α} (h : Tells (Given means) none (last tag fs) a) :
    (∃ x, a = some x) ↔ ∃ f ∈ fs, f.tag = tag := by
  rcases tells_cases h with ⟨hl, rfl⟩ | ⟨b, hl, x, rfl, -⟩
  · simp [last_eq_none_iff.mp hl]
  · have hex : ∃ f ∈ fs, f.tag = tag := by
      by_contra hn
      rw [last_eq_none_iff.mpr hn] at hl
      cases hl
    exact ⟨fun _ => hex, fun _ => ⟨x, rfl⟩⟩

lemma last_of_some {α : Type} {means : ByteArray → α → Prop} {fs : List Field} {tag : UInt8} {x : α}
    (h : Tells (Given means) none (last tag fs) (some x)) : ∃ b, last tag fs = some b ∧ means b x := by
  rcases tells_cases h with ⟨-, hx⟩ | ⟨b, hl, y, hy, hb⟩
  · cases hx
  · cases hy
    exact ⟨b, hl, hb⟩

lemma last_of_governs {α : Type} {take : σ → Field → Except DecodeFault σ} {tag : UInt8}
    {get : σ → Option α} {means : ByteArray → α → Prop} (h : Governs take tag get (Given means))
    {fs : List Field} {s t : σ} (ht : fs.foldlM take s = .ok t) (hs : get s = none) {x : α}
    (hx : get t = some x) : ∃ b, last tag fs = some b ∧ means b x := by
  have htells := tells_last h ht
  rw [hs, hx] at htells
  exact last_of_some htells

end TwoHop.Proofs.Wire.Decoders
