import TwoHop.Proofs.Text.Cutting
import TwoHop.Proofs.Text.Trimming
import TwoHop.Proofs.Wire.RoundTrip
import TwoHop.Token

namespace TwoHop.Proofs.Token.Spelling

open TwoHop.Base64 TwoHop.Text
open Text.Cutting Text.Trimming Wire.RoundTrip Wire.Values

def spelled : List Char :=
  ['A', 'B', 'C', 'D', 'E', 'F', 'G', 'H', 'I', 'J', 'K', 'L', 'M', 'N', 'O', 'P', 'Q', 'R', 'S', 'T', 'U',
    'V', 'W', 'X', 'Y', 'Z', 'a', 'b', 'c', 'd', 'e', 'f', 'g', 'h', 'i', 'j', 'k', 'l', 'm', 'n', 'o', 'p',
    'q', 'r', 's', 't', 'u', 'v', 'w', 'x', 'y', 'z', '0', '1', '2', '3', '4', '5', '6', '7', '8', '9', '-', '_']

lemma alphabet_eq : alphabet = spelled.toArray :=
  congrArg List.toArray (String.toList_ofList (l := spelled))

lemma size_alphabet : alphabet.size = 64 := by
  rw [alphabet_eq]
  rfl

-- Characters are told apart by their numbers: those are far quicker to compare.
lemma nodup_alphabet : alphabet.toList.Nodup := by
  rw [alphabet_eq]
  exact .of_map Char.toNat (by decide)

lemma eq_of_getElem_eq {xs : Array Char} {i j : Nat} (hxs : xs.toList.Nodup) (hi : i < xs.size)
    (hj : j < xs.size) (h : xs[i] = xs[j]) : i = j := by
  rw [← Array.getElem_toList, ← Array.getElem_toList] at h
  exact hxs.getElem_inj_iff.mp h

lemma letter_mod (n : Nat) : letter (n % 64) = letter n := by
  rw [letter, letter, Nat.mod_mod]

lemma alphabet_eq_some_iff {v : Nat} {c : Char} : alphabet[v]? = some c ↔ v < 64 ∧ c = letter v := by
  have hsome : ∀ h : v < alphabet.size, alphabet[v]? = some (letter v) := by
    intro h
    rw [letter, Nat.mod_eq_of_lt (size_alphabet ▸ h), Array.getElem?_eq_getElem h, Option.getD_some]
  constructor
  · intro h
    obtain ⟨hv, -⟩ := Array.getElem?_eq_some_iff.mp h
    rw [hsome hv] at h
    exact ⟨size_alphabet ▸ hv, (Option.some.inj h).symm⟩
  · rintro ⟨hv, hc⟩
    rw [hc, hsome (size_alphabet.symm ▸ hv)]

lemma letter_mem_spelled (n : Nat) : letter n ∈ spelled := by
  have hletter := alphabet_eq_some_iff.mpr ⟨Nat.mod_lt n (by decide), rfl⟩
  rw [letter_mod, alphabet_eq, List.getElem?_toArray] at hletter
  apply List.mem_of_getElem? hletter

lemma value?_eq_some_iff {c : Char} {v : Nat} : value? c = some v ↔ v < 64 ∧ c = letter v := by
  rw [value?, Option.map_eq_some_iff, ← alphabet_eq_some_iff]
  constructor
  · rintro ⟨i, hi, rfl⟩
    exact Array.getElem?_eq_some_iff.mpr ⟨i.isLt, (Array.finIdxOf?_eq_some_iff.mp hi).1⟩
  · intro h
    obtain ⟨hv, hc⟩ := Array.getElem?_eq_some_iff.mp h
    refine ⟨⟨v, hv⟩, Array.finIdxOf?_eq_some_iff.mpr ⟨hc, ?_⟩, rfl⟩
    intro i hi hsame
    exact Nat.ne_of_lt hi (eq_of_getElem_eq nodup_alphabet i.isLt hv (hsame.trans hc.symm))

lemma value?_letter (n : Nat) : value? (letter n) = some (n % 64) :=
  value?_eq_some_iff.mpr ⟨Nat.mod_lt _ (by decide), (letter_mod n).symm⟩

lemma mapM_value?_eq_some_iff {ls : List Char} {vs : List Nat} :
    ls.mapM value? = some vs ↔ (∀ v ∈ vs, v < 64) ∧ ls = vs.map letter := by
  induction ls generalizing vs with
  | nil => cases vs <;> simp
  | cons c ls ih =>
    simp only [List.mapM_cons, Option.bind_eq_bind, Option.bind_eq_some_iff, Option.pure_def,
      Option.some.injEq]
    constructor
    · rintro ⟨v, hv, us, hus, rfl⟩
      obtain ⟨hlt, hc⟩ := value?_eq_some_iff.mp hv
      obtain ⟨hall, hls⟩ := ih.mp hus
      exact ⟨List.forall_mem_cons.mpr ⟨hlt, hall⟩, by rw [hc, hls, List.map_cons]⟩
    · rintro ⟨hall, hls⟩
      cases vs with
      | nil => cases hls
      | cons v us =>
        obtain ⟨hc, hls⟩ := List.cons.inj hls
        obtain ⟨hlt, hus⟩ := List.forall_mem_cons.mp hall
        exact ⟨v, value?_eq_some_iff.mpr ⟨hlt, hc⟩, us, ih.mpr ⟨hus, hls⟩, rfl⟩

lemma toUInt8_of_eq {n : Nat} {x : UInt8} (h : n = x.toNat) : n.toUInt8 = x := by
  rw [h]
  exact UInt8.ofNat_toNat

lemma toNat_toUInt8 {n : Nat} (h : n < 256) : n.toUInt8.toNat = n := UInt8.toNat_ofNat_of_lt h

lemma values_letters (l : List UInt8) :
    ∃ vs, (letters l).mapM value? = some vs ∧ fills vs = true ∧ groupBytes vs = l := by
  simp only [mapM_value?_eq_some_iff]
  fun_induction letters l with
  | case1 => exact ⟨[], ⟨by simp, rfl⟩, rfl, rfl⟩
  | case2 x =>
    have hx := x.toNat_lt
    refine ⟨[x.toNat / 4, x.toNat % 4 * 16], ⟨?_, rfl⟩, ?_, ?_⟩
    · simp only [List.forall_mem_cons]
      exact ⟨by omega, by omega, by simp⟩
    · simp only [fills, beq_iff_eq]
      omega
    · rw [groupBytes, toUInt8_of_eq (x := x) (by omega)]
  | case3 x y =>
    have hx := x.toNat_lt
    have hy := y.toNat_lt
    refine ⟨[x.toNat / 4, x.toNat % 4 * 16 + y.toNat / 16, y.toNat % 16 * 4], ⟨?_, rfl⟩, ?_, ?_⟩
    · simp only [List.forall_mem_cons]
      exact ⟨by omega, by omega, by omega, by simp⟩
    · simp only [fills, beq_iff_eq]
      omega
    · rw [groupBytes, toUInt8_of_eq (x := x) (by omega), toUInt8_of_eq (x := y) (by omega)]
  | case4 x y z rest ih =>
    have hx := x.toNat_lt
    have hy := y.toNat_lt
    have hz := z.toNat_lt
    obtain ⟨vs, ⟨hlt, hvs⟩, hfills, rfl⟩ := ih
    refine ⟨x.toNat / 4 :: (x.toNat % 4 * 16 + y.toNat / 16) :: (y.toNat % 16 * 4 + z.toNat / 64) ::
      z.toNat % 64 :: vs, ⟨?_, ?_⟩, hfills, ?_⟩
    · simp only [List.forall_mem_cons]
      exact ⟨by omega, by omega, by omega, by omega, hlt⟩
    · simp only [List.map_cons, letter_mod, hvs]
    · rw [groupBytes, toUInt8_of_eq (x := x) (by omega), toUInt8_of_eq (x := y) (by omega),
        toUInt8_of_eq (x := z) (by omega)]

lemma letters_groupBytes {vs : List Nat} (hvs : ∀ v ∈ vs, v < 64) (h : fills vs = true) :
    letters (groupBytes vs) = vs.map letter := by
  fun_induction fills vs with
  | case1 a b c d rest ih =>
    simp only [List.forall_mem_cons] at hvs
    obtain ⟨ha, hb, hc, hd, hrest⟩ := hvs
    have hlast : letter (c % 4 * 64 + d) = letter d := by
      rw [← letter_mod, Nat.mul_add_mod_self_right, letter_mod]
    simp only [groupBytes, letters, List.map_cons, ih hrest h]
    rw [toNat_toUInt8 (by omega), toNat_toUInt8 (by omega), toNat_toUInt8 (by omega),
      show (a * 4 + b / 16) / 4 = a by omega,
      show (a * 4 + b / 16) % 4 * 16 + (b % 16 * 16 + c / 4) / 16 = b by omega,
      show (b % 16 * 16 + c / 4) % 16 * 4 + (c % 4 * 64 + d) / 64 = c by omega, hlast]
  | case2 a b c =>
    simp only [List.forall_mem_cons] at hvs
    obtain ⟨ha, hb, hc, -⟩ := hvs
    rw [beq_iff_eq] at h
    simp only [groupBytes, letters, List.map_cons, List.map_nil]
    rw [toNat_toUInt8 (by omega), toNat_toUInt8 (by omega),
      show (a * 4 + b / 16) / 4 = a by omega,
      show (a * 4 + b / 16) % 4 * 16 + (b % 16 * 16 + c / 4) / 16 = b by omega,
      show (b % 16 * 16 + c / 4) % 16 * 4 = c by omega]
  | case3 a b =>
    simp only [List.forall_mem_cons] at hvs
    obtain ⟨ha, hb, -⟩ := hvs
    rw [beq_iff_eq] at h
    simp only [groupBytes, letters, List.map_cons, List.map_nil]
    rw [toNat_toUInt8 (by omega), show (a * 4 + b / 16) / 4 = a by omega,
      show (a * 4 + b / 16) % 4 * 16 = b by omega]
  | case4 => cases h
  | case5 => rfl

lemma of_letter {p : Char → Bool} (hall : spelled.all p = true) (n : Nat) : p (letter n) = true :=
  List.all_eq_true.mp hall _ (letter_mem_spelled n)

lemma eq_pad_of_mem_padding {n : Nat} {c : Char} (h : c ∈ padding n) : c = '=' := by
  unfold padding at h
  split at h <;> simp_all

lemma letter_of_mem_letters {l : List UInt8} : ∀ c ∈ letters l, ∃ n, c = letter n := by
  obtain ⟨vs, hvs, -, -⟩ := values_letters l
  obtain ⟨-, hletters⟩ := mapM_value?_eq_some_iff.mp hvs
  intro c hc
  rw [hletters] at hc
  obtain ⟨v, -, rfl⟩ := List.mem_map.mp hc
  exact ⟨v, rfl⟩

lemma ne_pad_of_mem_letters {l : List UInt8} {c : Char} (h : c ∈ letters l) : (c != '=') = true := by
  obtain ⟨n, hn⟩ := letter_of_mem_letters c h
  rw [hn]
  exact of_letter (p := fun c => c != '=') (by decide) n

lemma takeWhile_padded {ls ps : List Char} (hls : ∀ c ∈ ls, (c != '=') = true)
    (hps : ∀ c ∈ ps, c = '=') : (ls ++ ps).takeWhile (· != '=') = ls := by
  apply takeWhile_append_eq hls
  intro c hc
  simp [hps c (List.mem_of_mem_head? hc)]

lemma decodeWith_eq_some_iff {pad : Nat → List Char} (hpad : ∀ n, ∀ c ∈ pad n, c = '=')
    {cs : List Char} {l : List UInt8} :
    decodeWith pad cs = some l ↔ cs = letters l ++ pad l.length := by
  simp only [decodeWith, Option.bind_eq_bind, Option.bind_eq_some_iff]
  constructor
  · rintro ⟨vs, hvs, h⟩
    obtain ⟨hlt, hspelling⟩ := mapM_value?_eq_some_iff.mp hvs
    split at h
    · next hfine =>
      rw [Bool.and_eq_true, beq_iff_eq] at hfine
      cases h
      rw [letters_groupBytes hlt hfine.1, ← hfine.2, ← hspelling, List.prefix_iff_eq_append.mp]
      exact List.takeWhile_prefix _
    · cases h
  · rintro rfl
    obtain ⟨vs, hvs, hfills, hbytes⟩ := values_letters l
    refine ⟨vs, ?_, ?_⟩
    · rwa [takeWhile_padded (fun c => ne_pad_of_mem_letters) (hpad _)]
    · rw [takeWhile_padded (fun c => ne_pad_of_mem_letters) (hpad _), List.drop_left, hfills, hbytes]
      simp

lemma letters_inj {l m : List UInt8} (h : letters l = letters m) : l = m := by
  have hbare (l : List UInt8) : decodeWith (fun _ => []) (letters l) = some l :=
    (decodeWith_eq_some_iff (by simp)).mpr (List.append_nil _).symm
  have hl := hbare l
  rw [h, hbare m, Option.some.injEq] at hl
  exact hl.symm

lemma letters_of_padded {l m : List UInt8} {n : Nat} (h : letters l ++ padding n = letters m) : l = m := by
  apply letters_inj
  have hfront := congrArg (List.takeWhile (· != '=')) h
  rw [takeWhile_padded (fun c => ne_pad_of_mem_letters) (fun c => eq_pad_of_mem_padding),
    ← List.append_nil (letters m),
    takeWhile_padded (fun c => ne_pad_of_mem_letters) (by simp)] at hfront
  exact hfront

lemma eq_encode_iff {s : String} {b : ByteArray} :
    s = encode b ↔ s.toList = letters b.data.toList ++ padding b.data.toList.length := by
  rw [encode, ← String.toList_inj, String.toList_ofList]
  rfl

lemma eq_encodeUnpadded_iff {s : String} {b : ByteArray} :
    s = encodeUnpadded b ↔ s.toList = letters b.data.toList := by
  rw [encodeUnpadded, ← String.toList_inj, String.toList_ofList]

lemma decode?_eq_some_iff {s : String} {b : ByteArray} :
    decode? s = some b ↔ s = encode b ∨ s = encodeUnpadded b := by
  have hpadded (l : List UInt8) :
      decodeWith padding s.toList = some l ↔ s.toList = letters l ++ padding l.length :=
    decodeWith_eq_some_iff fun n c => eq_pad_of_mem_padding
  have hbare (l : List UInt8) : decodeWith (fun _ => []) s.toList = some l ↔ s.toList = letters l := by
    rw [decodeWith_eq_some_iff (by simp), List.append_nil]
  have hb (l : List UInt8) : (⟨l.toArray⟩ : ByteArray) = b ↔ l = b.data.toList := by
    rw [ByteArray.ext_iff, ← Array.toList_inj]
  rw [decode?, eq_encode_iff, eq_encodeUnpadded_iff, Option.map_eq_some_iff]
  simp only [hb, exists_eq_right]
  cases hfirst : decodeWith padding s.toList with
  | none =>
    rw [Option.orElse_none, hbare, ← hpadded, hfirst]
    simp
  | some l =>
    have hl := (hpadded l).mp hfirst
    rw [Option.orElse_some, ← hpadded, hfirst]
    constructor
    · exact Or.inl
    · rintro (h | h)
      · exact h
      · rw [letters_of_padded (hl.symm.trans h)]

lemma decode?_encode (b : ByteArray) : decode? (encode b) = some b :=
  decode?_eq_some_iff.mpr (Or.inl rfl)

def Written (c : Char) : Prop := c = '=' ∨ ∃ n, c = letter n

lemma written_encode (b : ByteArray) : ∀ c ∈ (encode b).toList, Written c := by
  intro c hc
  rw [encode, String.toList_ofList, List.mem_append] at hc
  rcases hc with hc | hc
  · exact .inr (letter_of_mem_letters c hc)
  · exact .inl (eq_pad_of_mem_padding hc)

lemma of_written {p : Char → Bool} (hall : spelled.all p = true)
    (hpad : p '=' = true) {c : Char} (h : Written c) : p c = true := by
  rcases h with rfl | ⟨n, hn⟩
  · exact hpad
  · rw [hn]
    exact of_letter hall n

lemma tight_of_written {cs : List Char} (h : ∀ c ∈ cs, Written c) : Tight cs := by
  apply tight_of_not_blank
  apply List.all_eq_true.mpr
  intro c hc
  exact of_written (p := fun c => !isBlank c) (by decide) (by decide) (h c hc)

lemma trim_encode (b : ByteArray) : trim (encode b) = encode b := by
  rw [trim, trimList_of_tight (tight_of_written (written_encode b)), String.ofList_toList]

lemma all_utf8Encode {p : UInt8 → Bool} {cs : List Char}
    (h : ∀ c ∈ cs, (String.utf8EncodeChar c).all p = true) : cs.utf8Encode.data.all p = true := by
  induction cs with
  | nil => simp
  | cons c cs ih =>
    obtain ⟨hc, hcs⟩ := List.forall_mem_cons.mp h
    rw [List.utf8Encode_cons, ByteArray.data_append, Array.all_append, ih hcs,
      List.utf8Encode_singleton]
    simpa using hc

lemma visible_encode (b : ByteArray) : (encode b).toUTF8.data.all isVisible = true := by
  rw [String.toUTF8_eq_toByteArray, ← String.ofList_toList (s := encode b), String.toByteArray_ofList]
  apply all_utf8Encode
  intro c hc
  exact of_written (p := fun c => (String.utf8EncodeChar c).all isVisible) (by decide)
    (by decide) (written_encode b c hc)

lemma encode_ne_empty {b : ByteArray} (h : 0 < b.size) : encode b ≠ "" := by
  intro hempty
  have hb := decode?_encode b
  rw [hempty, show decode? "" = some .empty by decide, Option.some.injEq] at hb
  subst hb
  cases h

lemma ofHeaderText?_headerText {t : Token} (hl : Frame.Legal t.encode.size) :
    Token.ofHeaderText? t.headerText = some t := by
  have hd : Token.decode t.encode = .ok t := decode_of_legal (k := .token) hl
  have hempty : (encode t.encode).isEmpty = false := by
    rw [Bool.eq_false_iff, ne_eq, String.isEmpty_iff]
    exact encode_ne_empty hl.1
  simp [Token.ofHeaderText?, Token.headerText, trim_encode, hempty, decode?_encode, hd, Except.toOption]

end TwoHop.Proofs.Token.Spelling
