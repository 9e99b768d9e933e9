import TwoHop.Proofs.Wire.RoundTrip

namespace TwoHop.Proofs.Wire.Reencoding

open TwoHop.Field TwoHop.Header
open Text.Letters Fields Format Rules Values Decoders HeaderFields Envelopes RoundTrip

variable {fs : List Field} {tag : UInt8}

lemma size_name_le (s : Slot) : s.name.toUTF8.size ≤ 17 := by
  revert s
  decide

lemma size_first_le {b : ByteArray} (h : first tag fs = some b) : b.size ≤ (encodeAll fs).size := by
  obtain ⟨f, hf, rfl⟩ := Option.map_eq_some_iff.mp h
  exact size_le_of_mem (List.mem_of_find?_eq_some hf)

lemma size_last_le {b : ByteArray} (h : last tag fs = some b) : b.size ≤ (encodeAll fs).size := by
  obtain ⟨f, hf, rfl⟩ := Option.map_eq_some_iff.mp h
  exact size_le_of_mem (List.mem_reverse.mp (List.mem_of_find?_eq_some hf))

lemma size_text_le {default s : String} (h : Tells IsText default (last tag fs) s) :
    s.toUTF8.size ≤ default.toUTF8.size + (encodeAll fs).size := by
  rcases tells_cases h with ⟨-, rfl⟩ | ⟨b, hl, rfl⟩
  · omega
  · have := size_last_le hl
    omega

lemma size_given_le {s : String} (h : Tells (Given IsText) none (last tag fs) (some s)) :
    s.toUTF8.size ≤ (encodeAll fs).size := by
  obtain ⟨b, hb, rfl⟩ := last_of_some h
  exact size_last_le hb

lemma size_bytes_le {b : ByteArray} (h : Tells Eq .empty (last tag fs) b) :
    b.size ≤ (encodeAll fs).size := by
  rcases tells_cases h with ⟨-, rfl⟩ | ⟨c, hl, rfl⟩
  · exact Nat.zero_le _
  · exact size_last_le hl

lemma size_pair_le {b : ByteArray} {name value : String}
    (h : IsMessage .pair b (some name, value)) :
    name.toUTF8.size ≤ b.size ∧ value.toUTF8.size ≤ b.size := by
  obtain ⟨fs, hcut, hname, hvalue⟩ := reads_of_decode h
  rw [hcut.2]
  exact ⟨size_given_le hname, by simpa using size_text_le hvalue⟩

lemma size_pairField (p : String × String) : (encodeAll [pairField p]).size =
    15 + p.1.toUTF8.size + p.2.toUTF8.size := by
  simp only [pairField, size_encodeAll_cons, encodeAll_nil, size_pairBytes, headSize,
    ByteArray.size_empty]
  omega

lemma size_surplus_le {pairs : List (String × String)} (h : Surplus fs pairs) :
    (encodeAll (pairs.map pairField)).size ≤ 7 * (encodeAll fs).size := by
  induction h with
  | nil => exact Nat.zero_le _
  | slot _ _ ih | nameless _ _ ih | unknown _ _ ih =>
    rw [encodeAll_append, ByteArray.size_append]
    omega
  | @repeated fs pairs s value _ _ ih =>
    have hname := size_name_le s
    rw [List.map_append, List.map_singleton, encodeAll_append, encodeAll_append,
      ByteArray.size_append, ByteArray.size_append, size_pairField, size_encodeAll_cons]
    simp only [Field.ofText, headSize, encodeAll_nil, ByteArray.size_empty]
    omega
  | @named fs pairs b name value _ hb ih =>
    obtain ⟨hname, hvalue⟩ := size_pair_le hb
    rw [List.map_append, List.map_singleton, encodeAll_append, encodeAll_append,
      ByteArray.size_append, ByteArray.size_append, size_pairField, size_encodeAll_cons, size_lower]
    simp only [headSize, encodeAll_nil, ByteArray.size_empty]
    omega

lemma size_encodeAll_le {bound : Nat} (h : ∀ f ∈ fs, f.value.size ≤ bound) :
    (encodeAll fs).size ≤ fs.length * (headSize + bound) := by
  induction fs with
  | nil => exact Nat.zero_le _
  | cons f fs ih =>
    obtain ⟨hf, hfs⟩ := List.forall_mem_cons.mp h
    have hrest := ih hfs
    rw [size_encodeAll_cons, List.length_cons, Nat.succ_mul]
    omega

lemma size_declared_le {h : Headers} (hr : Reads .headers fs h) :
    (encodeAll (h.declared.map slotField)).size ≤ 30 * (headSize + (encodeAll fs).size) := by
  have hvalues : ∀ f ∈ h.declared.map slotField, f.value.size ≤ (encodeAll fs).size := by
    intro f hf
    obtain ⟨⟨s, value⟩, hp, rfl⟩ := List.mem_map.mp hf
    obtain ⟨u, -, hu⟩ := List.mem_filterMap.mp hp
    obtain ⟨w, hw, he⟩ := Option.map_eq_some_iff.mp hu
    cases he
    have hfirst := hr.1 s
    rw [hw] at hfirst
    exact size_first_le hfirst
  have hlength : h.declared.length ≤ 30 := by
    apply Nat.le_trans (List.length_filterMap_le _ _)
    exact Nat.le_of_eq List.length_finRange
  refine Nat.le_trans (size_encodeAll_le hvalues) (Nat.mul_le_mul_right _ ?_)
  rwa [List.length_map]

lemma size_headers_le {b : ByteArray} {h : Headers} (hd : Headers.decode b = .ok h) :
    h.encode.size ≤ 150 + 37 * b.size := by
  obtain ⟨fs, hcut, hr⟩ := reads_of_decode (k := .headers) hd
  have hdeclared := size_declared_le hr
  have hsurplus := size_surplus_le hr.2
  rw [← hcut.2] at hdeclared hsurplus
  rw [Headers.encode, fields_eq, encodeAll_append, ByteArray.size_append]
  simp only [headSize] at hdeclared
  omega

lemma size_inner_le {h : Headers} (ht : Tells (IsMessage .headers) .empty (last tag fs) h) :
    h.encode.size ≤ 150 + 37 * (encodeAll fs).size := by
  rcases tells_cases ht with ⟨-, rfl⟩ | ⟨b, hl, hb⟩
  · have hempty : Headers.decode (encodeAll []) = .ok .empty := fold_of_cut ⟨by simp, rfl⟩ _
    have := size_headers_le hempty
    rw [encodeAll_nil, ByteArray.size_empty] at this
    omega
  · have := size_headers_le hb
    have := size_last_le hl
    omega

lemma size_token_le {b : ByteArray} {t : Token} (hd : Token.decode b = .ok t) :
    t.encode.size ≤ 28 + 3 * b.size := by
  obtain ⟨fs, hcut, hid, -, hnonce, hsignature⟩ := reads_of_decode (k := .token) hd
  have hid := size_text_le hid
  have hnonce := size_bytes_le hnonce
  have hsignature := size_bytes_le hsignature
  have hempty : "".toUTF8.size = 0 := rfl
  rw [← hcut.2] at hid hnonce hsignature
  simp only [Token.encode, Token.fields, size_encodeAll_cons, encodeAll_nil, Field.ofText, Field.ofNat,
    Bytes.size_bigEndian, headSize, ByteArray.size_empty]
  omega

lemma fits_ofNat (tag : UInt8) {width : Nat} (n : Nat) (h : width < UInt32.size) :
    Fits (.ofNat tag width n) := by
  rw [Fits, Field.ofNat, Bytes.size_bigEndian]
  exact h

lemma fits_ofText (tag : UInt8) {s : String} (h : s.toUTF8.size < UInt32.size) :
    Fits (.ofText tag s) := h

lemma lt_of_body {n : Nat} {d : ByteArray} (hd : d.size ≤ Frame.maxBody)
    (h : n ≤ 150 + 37 * d.size) : n < UInt32.size := by
  -- The factor 37 is far from what would carry a body past four bytes.
  simp only [Frame.maxBody, UInt32.size] at hd ⊢
  omega

lemma lt_of_last {b d : ByteArray} (hcut : Cut d fs) (hd : d.size ≤ Frame.maxBody)
    (h : last tag fs = some b) : b.size < UInt32.size := by
  have hb := size_last_le h
  rw [← hcut.2] at hb
  exact lt_of_body hd (by omega)

lemma lt_of_given {m : Option String} {d : ByteArray} (hcut : Cut d fs) (hd : d.size ≤ Frame.maxBody)
    (h : Tells (Given IsText) none (last tag fs) m) : ∀ s ∈ m, s.toUTF8.size < UInt32.size := by
  rintro s ⟨⟩
  obtain ⟨b, hb, rfl⟩ := last_of_some h
  exact lt_of_last hcut hd hb

lemma lt_of_inner {h : Headers} {d : ByteArray} (hcut : Cut d fs) (hd : d.size ≤ Frame.maxBody)
    (ht : Tells (IsMessage .headers) .empty (last tag fs) h) : h.encode.size < UInt32.size := by
  have hh := size_inner_le ht
  rw [← hcut.2] at hh
  exact lt_of_body hd (by omega)

lemma lt_of_token {t : Option Token} {d : ByteArray} (hcut : Cut d fs) (hd : d.size ≤ Frame.maxBody)
    (h : Tells (Given (IsMessage .token)) none (last tag fs) t) :
    ∀ u ∈ t, (Token.encode u).size < UInt32.size := by
  rintro u ⟨⟩
  obtain ⟨b, hb, hu⟩ := last_of_some h
  have hsize := size_token_le hu
  have hlast := size_last_le hb
  rw [← hcut.2] at hlast
  exact lt_of_body hd (by omega)

lemma fits_option {α : Type} {x : Option α} {field : α → Field} (h : ∀ a ∈ x, Fits (field a)) :
    ∀ f ∈ (x.map field).toList, Fits f := by
  intro f hf
  obtain ⟨a, ha, rfl⟩ := Option.map_eq_some_iff.mp (Option.mem_toList.mp hf)
  exact h a ha

lemma fields_fit {k : Kind} {d : ByteArray} {v : k.Value} (h : k.decode d = .ok v)
    (hd : d.size ≤ Frame.maxBody) : ∀ f ∈ k.fields v, Fits f := by
  obtain ⟨fs, hcut, hr⟩ := reads_of_decode h
  cases k with
  | request =>
    obtain ⟨hmethod, huri, hscheme, -, hheaders⟩ := hr
    have hs := size_text_le hscheme
    have hhttp : "http".toUTF8.size = 4 := by decide
    rw [← hcut.2] at hs
    simp only [Kind.fields, Request.fields, List.forall_mem_cons]
    exact ⟨fits_ofText 1 (lt_of_last hcut hd hmethod), fits_ofText 2 (lt_of_last hcut hd huri),
      fits_ofText 3 (lt_of_body hd (by omega)), fits_ofNat 4 _ (by decide),
      lt_of_inner hcut hd hheaders, by simp⟩
  | response =>
    obtain ⟨-, hmessage, hheaders⟩ := hr
    simp only [Kind.fields, Response.fields, List.forall_mem_cons, List.forall_mem_append]
    exact ⟨fits_ofNat 1 _ (by decide), fits_option (lt_of_given hcut hd hmessage),
      lt_of_inner hcut hd hheaders, by simp⟩
  | tunnelRequest =>
    obtain ⟨hhost, -, hheaders, htoken⟩ := hr
    simp only [Kind.fields, TunnelRequest.fields, List.forall_mem_cons, List.forall_mem_append]
    exact ⟨⟨fits_ofText 1 (lt_of_last hcut hd hhost), fits_ofNat 2 _ (by decide),
      lt_of_inner hcut hd hheaders, by simp⟩, fits_option (lt_of_token hcut hd htoken)⟩
  | verdict =>
    obtain ⟨-, hmessage⟩ := hr
    simp only [Kind.fields, Verdict.fields, List.forall_mem_cons]
    exact ⟨fits_ofNat 1 _ (by decide), fits_option (lt_of_given hcut hd hmessage)⟩
  | token =>
    have hsize := size_token_le h
    exact fits_of_size (lt_of_body hd (Nat.le_trans hsize (by omega)))
  | headers =>
    have hsize := size_headers_le h
    exact fits_of_size (lt_of_body hd hsize)
  | pair =>
    obtain ⟨name, value⟩ := v
    obtain ⟨hname, hvalue⟩ := hr
    have hs : value.toUTF8.size ≤ "".toUTF8.size + (encodeAll fs).size := size_text_le hvalue
    have hempty : "".toUTF8.size = 0 := rfl
    rw [← hcut.2] at hs
    simp only [Kind.fields, List.forall_mem_append, List.forall_mem_cons]
    exact ⟨fits_option (lt_of_given hcut hd hname), fits_ofText 2 (lt_of_body hd (by omega)), by simp⟩

end TwoHop.Proofs.Wire.Reencoding
