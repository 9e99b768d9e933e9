import Mathlib.Data.Nat.Digits.Defs
import TwoHop.Frame
import TwoHop.Proofs.Wire.Envelopes

namespace TwoHop.Proofs.Wire.Complaints

open TwoHop.Field
open Fields Format Rules Decoders HeaderFields Envelopes

lemma mem_toDigitsCore {base fuel n : Nat} {acc : List Char} {c : Char} (hbase : 0 < base)
    (h : c ∈ Nat.toDigitsCore base fuel n acc) : c ∈ acc ∨ ∃ m < base, c = Nat.digitChar m := by
  induction fuel generalizing n acc with
  | zero => exact Or.inl h
  | succ fuel ih =>
    have hhead (hc : c ∈ Nat.digitChar (n % base) :: acc) :
        c ∈ acc ∨ ∃ m < base, c = Nat.digitChar m := by
      rcases List.mem_cons.mp hc with rfl | hc
      · exact Or.inr ⟨_, Nat.mod_lt n hbase, rfl⟩
      · exact Or.inl hc
    rw [Nat.toDigitsCore] at h
    split at h
    · exact hhead h
    · rcases ih h with hc | hc
      · exact hhead hc
      · exact Or.inr hc

lemma utf8Size_of_mem_toDigits {base n : Nat} {c : Char} (hpos : 0 < base) (hbase : base ≤ 16)
    (h : c ∈ Nat.toDigits base n) : c.utf8Size = 1 := by
  have hdigits : ∀ m < 16, (Nat.digitChar m).utf8Size = 1 := by decide
  rcases mem_toDigitsCore hpos h with hnone | ⟨m, hm, rfl⟩
  · simp at hnone
  · exact hdigits m (Nat.lt_of_lt_of_le hm hbase)

lemma size_ofList {cs : List Char} (h : ∀ c ∈ cs, c.utf8Size = 1) :
    (String.ofList cs).utf8ByteSize = cs.length := by
  rw [← String.size_toByteArray, String.toByteArray_ofList]
  induction cs with
  | nil => rfl
  | cons c cs ih =>
    obtain ⟨hc, hcs⟩ := List.forall_mem_cons.mp h
    rw [List.utf8Encode_cons, ByteArray.size_append, List.utf8Encode_singleton,
      List.size_toByteArray, String.length_utf8EncodeChar, hc, ih hcs, List.length_cons, Nat.add_comm]

lemma size_repr_le {n digits : Nat} (hpos : 0 < digits) (h : n < 10 ^ digits) :
    n.repr.utf8ByteSize ≤ digits := by
  rw [Nat.repr, size_ofList fun c hc => utf8Size_of_mem_toDigits (by decide) (by decide) hc]
  exact Nat.toDigits_length 10 n digits hpos h

lemma size_word_le {n : Nat} (h : n < UInt32.size) : n.repr.utf8ByteSize ≤ 10 :=
  size_repr_le (by decide) (Nat.lt_trans h (by decide))

lemma size_tag_le (tag : UInt8) : tag.toNat.repr.utf8ByteSize ≤ 3 :=
  size_repr_le (by decide) (Nat.lt_trans tag.toNat_lt (by decide))

lemma size_hex8 {n : Nat} (h : n < UInt32.size) : (hex8 n).utf8ByteSize = 8 := by
  have hlength := Nat.toDigits_length 16 n 8 (by decide) (Nat.lt_of_lt_of_le h (by decide))
  rw [hex8, size_ofList]
  · rw [List.length_append, List.length_replicate]
    omega
  · intro c hc
    rcases List.mem_append.mp hc with hc | hc
    · rw [List.eq_of_mem_replicate hc]
      rfl
    · exact utf8Size_of_mem_toDigits (by decide) (by decide) hc

inductive Curt : DecodeFault → Prop
  | fieldHeader : Curt .fieldHeader
  | fieldTruncated (tag : UInt8) {found announced : Nat} : found < UInt32.size →
      announced < UInt32.size → Curt (.fieldTruncated tag found announced)
  | fieldNotText (tag : UInt8) : Curt (.fieldNotText tag)
  | fieldWidth (tag : UInt8) {found expected : Nat} : found < UInt32.size →
      expected < UInt32.size → Curt (.fieldWidth tag found expected)
  | missing (field : Required) : Curt (.missing field)

variable {σ : Type} {b : ByteArray} {e : DecodeFault}

lemma size_curt_le (h : Curt e) : e.text.utf8ByteSize ≤ 51 := by
  cases h with
  | fieldHeader => decide
  | @fieldTruncated tag found announced hfound hannounced =>
    have htext : (DecodeFault.fieldTruncated tag found announced).text =
        "Field " ++ tag.toNat.repr ++ " truncated: " ++ found.repr ++ " < " ++ announced.repr := rfl
    have htag := size_tag_le tag
    have hfound := size_word_le hfound
    have hannounced := size_word_le hannounced
    have hfield : "Field ".utf8ByteSize = 6 := by decide
    have htruncated : " truncated: ".utf8ByteSize = 12 := by decide
    have hless : " < ".utf8ByteSize = 3 := by decide
    rw [htext]
    simp only [String.utf8ByteSize_append]
    omega
  | fieldNotText tag =>
    have htext : (DecodeFault.fieldNotText tag).text =
        "Field " ++ tag.toNat.repr ++ " is not valid UTF-8" := rfl
    have htag := size_tag_le tag
    have hfield : "Field ".utf8ByteSize = 6 := by decide
    have hinvalid : " is not valid UTF-8".utf8ByteSize = 19 := by decide
    rw [htext]
    simp only [String.utf8ByteSize_append]
    omega
  | @fieldWidth tag found expected hfound hexpected =>
    have htext : (DecodeFault.fieldWidth tag found expected).text =
        "Field " ++ tag.toNat.repr ++ " has width " ++ found.repr ++ ", expected " ++ expected.repr :=
      rfl
    have htag := size_tag_le tag
    have hfound := size_word_le hfound
    have hexpected := size_word_le hexpected
    have hfield : "Field ".utf8ByteSize = 6 := by decide
    have hwidth : " has width ".utf8ByteSize = 11 := by decide
    have hcomma : ", expected ".utf8ByteSize = 11 := by decide
    rw [htext]
    simp only [String.utf8ByteSize_append]
    omega
  | missing field => cases field <;> decide

lemma word_lt {i j : Nat} (hj : j = i + 4) (hle : j ≤ b.size) :
    Bytes.toNat (b.extract i j) < UInt32.size := by
  have hlt := Bytes.toNat_lt (b.extract i j)
  have hfour : (b.extract i j).size = 4 := by
    rw [ByteArray.size_extract]
    omega
  rwa [hfour] at hlt

lemma curt_next? {i : Nat} (hb : b.size < UInt32.size) (h : next? b i = .error e) : Curt e := by
  simp only [next?] at h
  split at h
  · cases h
  · split at h
    · cases h
      exact .fieldHeader
    · next hend hhead =>
      split at h
      · cases h
      · cases h
        exact .fieldTruncated _ (by omega) (word_lt rfl (Nat.not_lt.mp hhead))

lemma curt_fold {take : σ → Field → Except DecodeFault σ} {s : σ} (hb : b.size < UInt32.size)
    (htake : ∀ s f e, Fits f → take s f = .error e → Curt e) (h : fold take b s = .error e) :
    Curt e := by
  rw [fold] at h
  generalize 0 = i at h
  induction i, s using foldFrom.induct take b with
  | case1 i s e' hnext =>
    rw [foldFrom, hnext] at h
    cases h
    exact curt_next? hb hnext
  | case2 i s hnext =>
    rw [foldFrom, hnext] at h
    cases h
  | case3 i s place hnext e' hstep =>
    rw [foldFrom, hnext] at h
    dsimp only at h
    rw [hstep] at h
    cases h
    exact htake s place.field e (eq_of_next? hnext).1 hstep
  | case4 i s place hnext s' hstep ih =>
    rw [foldFrom, hnext] at h
    dsimp only at h
    rw [hstep] at h
    exact ih h

def Terse (r : Rule σ) : Prop := ∀ f e, Fits f → r.read f = .error e → Curt e

lemma curt_obey {rules : List (Rule σ)} (h : ∀ r ∈ rules, Terse r) (s : σ) (f : Field)
    (e : DecodeFault) (hf : Fits f) (he : obey rules s f = .error e) : Curt e := by
  induction rules with
  | nil => cases he
  | cons r rules ih =>
    obtain ⟨hr, hrules⟩ := List.forall_mem_cons.mp h
    rw [obey] at he
    split at he
    · cases hread : r.read f with
      | error e' =>
        rw [hread] at he
        cases he
        exact hr f e hf hread
      | ok a =>
        rw [hread] at he
        cases he
    · exact ih hrules he

lemma terse_text (tag : UInt8) (set : σ → String → σ) : Terse ⟨tag, String, Field.text, set⟩ := by
  intro f e _ he
  simp only [Field.text] at he
  split at he
  · cases he
  · cases he
    exact .fieldNotText f.tag

lemma terse_number (tag : UInt8) {width : Nat} (hw : width < UInt32.size) (set : σ → Nat → σ) :
    Terse ⟨tag, Nat, fun f => f.nat width, set⟩ := by
  intro f e hf he
  simp only [Field.nat] at he
  split at he
  · cases he
  · cases he
    exact .fieldWidth f.tag hf hw

lemma terse_bytes (tag : UInt8) (set : σ → ByteArray → σ) :
    Terse ⟨tag, ByteArray, fun f => .ok f.value, set⟩ := by
  intro f e _ he
  cases he

lemma terse_message {k : Kind} (h : ∀ {b e}, b.size < UInt32.size → k.decode b = .error e → Curt e)
    (tag : UInt8) (set : σ → k.Value → σ) : Terse ⟨tag, k.Value, fun f => k.decode f.value, set⟩ :=
  fun _ _ hf he => h hf he

lemma curt_pair (hb : b.size < UInt32.size) (h : Kind.pair.decode b = .error e) : Curt e := by
  have hfold : fold Headers.takePairField b (none, "") = .error e := h
  refine curt_fold hb ?_ hfold
  rw [takePairField_eq]
  apply curt_obey
  simp only [pairRules, List.forall_mem_cons]
  exact ⟨terse_text _ _, terse_text _ _, by simp⟩

lemma curt_headers (hb : b.size < UInt32.size) (h : Headers.decode b = .error e) : Curt e := by
  refine curt_fold hb ?_ h
  rw [takeField_eq]
  apply curt_obey
  simp only [headerRules, List.forall_mem_append, List.forall_mem_map, List.forall_mem_cons]
  exact ⟨fun s _ => terse_text _ _, terse_message curt_pair _ _, by simp⟩

lemma curt_token (hb : b.size < UInt32.size) (h : Token.decode b = .error e) : Curt e := by
  refine curt_fold hb ?_ h
  rw [token_takeField_eq]
  apply curt_obey
  simp only [tokenRules, List.forall_mem_cons]
  exact ⟨terse_text _ _, terse_number _ (by decide) _, terse_bytes _ _, terse_bytes _ _, by simp⟩

lemma curt_tunnelRequest (hb : b.size < UInt32.size) (h : TunnelRequest.decode b = .error e) :
    Curt e := by
  have hdecode : (fold TunnelRequest.takeField b {}).bind finishTunnel = .error e :=
    (decoder_tunnelRequest.decode_eq b).symm.trans h
  cases hfold : fold TunnelRequest.takeField b {} with
  | error e' =>
    rw [hfold] at hdecode
    cases hdecode
    refine curt_fold hb ?_ hfold
    rw [tunnel_takeField_eq]
    apply curt_obey
    simp only [tunnelRules, List.forall_mem_cons]
    exact ⟨terse_text _ _, terse_number _ (by decide) _, terse_message (k := .headers) curt_headers _ _,
      terse_message (k := .token) curt_token _ _, by simp⟩
  | ok s =>
    rw [hfold] at hdecode
    obtain ⟨host, port, headers, token⟩ := s
    cases host with
    | none =>
      cases hdecode
      exact .missing _
    | some host =>
      cases port with
      | none =>
        cases hdecode
        exact .missing _
      | some port => cases hdecode

lemma size_badMagic_le {n : Nat} (h : n < UInt32.size) :
    (FrameFault.badMagic n).text.utf8ByteSize ≤ 53 := by
  have htext : (FrameFault.badMagic n).text = "Bad magic: 0x" ++ hex8 n := rfl
  have hfront : "Bad magic: 0x".utf8ByteSize = 13 := by decide
  rw [htext, String.utf8ByteSize_append, hfront, size_hex8 h]
  decide

lemma size_illegalLength_le {n : Nat} (h : n < UInt32.size) :
    (FrameFault.illegalLength n).text.utf8ByteSize ≤ 53 := by
  have htext : (FrameFault.illegalLength n).text =
      "Illegal body length: " ++ n.repr ++ " (allowed 1..=8388608)" := rfl
  have hfront : "Illegal body length: ".utf8ByteSize = 21 := by decide
  have hback : " (allowed 1..=8388608)".utf8ByteSize = 22 := by decide
  have hdigits := size_word_le h
  rw [htext]
  simp only [String.utf8ByteSize_append]
  omega

lemma size_heading_le {e : FrameFault} (hs : Frame.headerSize ≤ b.size)
    (h : Frame.parseHeader b = .error e) : e.text.utf8ByteSize ≤ 53 := by
  rw [Frame.parseHeader, if_neg (Nat.not_lt.mpr hs)] at h
  dsimp only at h
  split at h
  · cases h
    exact size_badMagic_le (word_lt rfl (Nat.le_trans (by decide) hs))
  · split at h
    · cases h
    · cases h
      exact size_illegalLength_le (word_lt rfl hs)

end TwoHop.Proofs.Wire.Complaints
