import TwoHop.Proofs.Wire.Reencoding

/-! A decoder accepts exactly its format, and what it makes of the bytes depends only on the fields
that it knows. -/

namespace TwoHop.Proofs.Wire.Acceptance

open TwoHop.Field
open Fields Format Rules Decoders Envelopes RoundTrip Reencoding

variable {σ : Type} {take : σ → Field → Except DecodeFault σ}

lemma foldlM_insert {before after : List Field} {f : Field} (h : ∀ s, take s f = .ok s) (s : σ) :
    (before ++ f :: after).foldlM take s = (before ++ after).foldlM take s := by
  rw [List.foldlM_append, List.foldlM_append]
  congr 1
  funext u
  exact foldlM_cons_of_ok (h u)

lemma foldlM_exchange {before after : List Field} {f g : Field} (h : ∀ s, take s f = take s g)
    (s : σ) : (before ++ f :: after).foldlM take s = (before ++ g :: after).foldlM take s := by
  rw [List.foldlM_append, List.foldlM_append]
  congr 1
  funext u
  rw [List.foldlM_cons, List.foldlM_cons, h]

lemma cut_of_sublist {fs gs : List Field} (hfits : ∀ f ∈ gs, Fits f) (h : fs.Sublist gs) :
    Cut (encodeAll fs) fs := ⟨fun f hf => hfits f (h.subset hf), rfl⟩

lemma decode_of_pads {k : Kind} {b c : ByteArray} (h : Pads k b c) : k.decode b = k.decode c := by
  induction h with
  | refl => rfl
  | symm _ ih => exact ih.symm
  | trans _ _ ihb ihc => exact ihb.trans ihc
  | @insert k before after f hfits hu =>
    obtain ⟨σ, take, init, finish, hd⟩ := exists_decoder k
    have hmore : Cut (encodeAll (before ++ f :: after)) (before ++ f :: after) := ⟨hfits, rfl⟩
    have hfewer : Cut (encodeAll (before ++ after)) (before ++ after) :=
      cut_of_sublist hfits ((List.sublist_cons_self _ _).append_left before)
    rw [hd.decode_eq, hd.decode_eq, fold_of_cut hmore, fold_of_cut hfewer,
      foldlM_insert fun s => hd.steps.skips s f hu]
  | @inside k j c before after v w hfits hc hshape _ ih =>
    obtain ⟨σ, take, init, finish, hd⟩ := exists_decoder k
    have hv : Cut (encodeAll (before ++ ⟨c.tag, v⟩ :: after)) (before ++ ⟨c.tag, v⟩ :: after) :=
      cut_of_sublist hfits (((List.sublist_cons_self _ _).cons_cons _).append_left before)
    have hw : Cut (encodeAll (before ++ ⟨c.tag, w⟩ :: after)) (before ++ ⟨c.tag, w⟩ :: after) :=
      cut_of_sublist hfits ((List.sublist_cons_self _ _).append_left before)
    rw [hd.decode_eq, hd.decode_eq, fold_of_cut hv, fold_of_cut hw,
      foldlM_exchange (hd.steps.nests c hc j hshape v w ih)]

lemma built_of_tells {fs : List Field} {tag : UInt8} {h : Headers}
    (ht : Tells (IsMessage .headers) .empty (last tag fs) h) : Built h := by
  rcases tells_cases ht with ⟨-, rfl⟩ | ⟨b, -, hb⟩
  · exact .empty
  · exact .decode hb

lemma builtIn_of_decode {k : Kind} {d : ByteArray} {v : k.Value} (h : k.decode d = .ok v) :
    BuiltIn k v := by
  obtain ⟨fs, -, hr⟩ := reads_of_decode h
  cases k with
  | request =>
    obtain ⟨-, -, -, -, hheaders⟩ := hr
    exact built_of_tells hheaders
  | response =>
    obtain ⟨-, -, hheaders⟩ := hr
    exact built_of_tells hheaders
  | tunnelRequest =>
    obtain ⟨-, -, hheaders, -⟩ := hr
    exact built_of_tells hheaders
  | headers => exact .decode h
  | verdict => trivial
  | token => trivial
  | pair => trivial

lemma decode_again {k : Kind} {d : ByteArray} {v : k.Value} (h : k.decode d = .ok v)
    (hf : ∀ f ∈ k.fields v, Fits f) : k.decode (k.encode v) = .ok v := by
  rw [decode_encode k v hf, settled_of_builtIn (builtIn_of_decode h)]

theorem exact_format (k : Kind) (d : ByteArray) :
    ((∃ v, k.decode d = .ok v) ↔ ∃ fs, Cut d fs ∧
      (∀ f ∈ fs, ∀ c ∈ k.columns, c.tag = f.tag → Holds c.shape f.value) ∧
      ∀ c ∈ k.columns, c.required = true → ∃ f ∈ fs, f.tag = c.tag) ∧
    (¬ Holds (.message k) d ↔ ∃ e : DecodeFault, k.decode d = .error e) ∧
    (∀ v, k.decode d = .ok v → ∀ fs, Cut d fs → Reads k fs v) ∧
    (∀ c, Pads k d c → k.decode c = k.decode d) ∧
    (∀ v, k.decode d = .ok v → (∀ f ∈ k.fields v, Fits f) ∨ d.size ≤ Frame.maxBody →
      k.decode (k.encode v) = .ok v) := by
  obtain ⟨σ, take, init, finish, hd⟩ := exists_decoder k
  refine ⟨?_, ?_, ?_, ?_, ?_⟩
  · rw [accepts_iff hd, holds_message_iff]
  · rw [← accepts_iff hd]
    cases hdec : k.decode d with
    | ok v => simp
    | error e => simp
  · exact fun v hv fs hfs => reads_of_cut hd hfs hv
  · exact fun c hc => (decode_of_pads hc).symm
  · intro v hv hfit
    rcases hfit with hfit | hsize
    · exact decode_again hv hfit
    · exact decode_again hv (fields_fit hv hsize)

end TwoHop.Proofs.Wire.Acceptance
