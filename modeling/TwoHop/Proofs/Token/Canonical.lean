import TwoHop.Proofs.Token.Bits
import TwoHop.Proofs.Wire.Reencoding

namespace TwoHop.Proofs.Token.Canonical

open TwoHop.Base64 TwoHop.Text
open Text.Trimming Spelling Bits
open Wire.Fields Wire.Format Wire.Rules Wire.Envelopes Wire.RoundTrip Wire.Reencoding

inductive Flawed (cs : List Char) : Prop
  | stray (c : Char) (hmem : c ∈ cs) (hc : c = '+' ∨ c = '/' ∨ isBlank c = true)
  | inside (front rest : List Char) (c : Char) (hcs : cs = front ++ '=' :: rest) (hmem : c ∈ rest)
      (hc : c ≠ '=')
  | uneven (hmem : '=' ∈ cs) (hlen : ¬ 4 ∣ cs.length)
  | surplus (front : List Char) (v pads : Nat) (hcs : cs = front ++ letter v :: List.replicate pads '=')
      (hv : front.length % 4 = 1 ∧ v % 16 ≠ 0 ∨ front.length % 4 = 2 ∧ v % 4 ≠ 0)

def strip (s : String) : String := .ofList (s.toList.filter (· != '='))

variable {s value : String} {t : Token} {b : ByteArray} {l : List UInt8}

lemma strip_encode (b : ByteArray) : strip (encode b) = encodeUnpadded b := by
  have hletters : (letters b.data.toList).filter (· != '=') = letters b.data.toList :=
    List.filter_eq_self.mpr fun c hc => ne_pad_of_mem_letters hc
  have hpads : (padding b.size).filter (· != '=') = [] :=
    List.filter_eq_nil_iff.mpr fun c hc => by simp [eq_pad_of_mem_padding hc]
  rw [strip, encode, String.toList_ofList, List.filter_append, hletters, hpads, List.append_nil]
  rfl

lemma fills_concat (us : List Nat) (v : Nat) (h : fills (us ++ [v]) = true) :
    ¬ (us.length % 4 = 1 ∧ v % 16 ≠ 0 ∨ us.length % 4 = 2 ∧ v % 4 ≠ 0) := by
  induction us using fills.induct with
  | case1 a b c d rest ih =>
    have hlen : (a :: b :: c :: d :: rest).length % 4 = rest.length % 4 := by
      simp only [List.length_cons]
      omega
    rw [hlen]
    exact ih h
  | case2 a b c => simp
  | case3 a b =>
    have hv : v % 4 = 0 := eq_of_beq h
    simp [hv]
  | case4 a =>
    have hv : v % 16 = 0 := eq_of_beq h
    simp [hv]
  | case5 => simp

lemma eq_pad_of_behind {ls ps front rest : List Char} {c : Char} (hls : ∀ c ∈ ls, (c != '=') = true)
    (hps : ∀ c ∈ ps, c = '=') (h : ls ++ ps = front ++ '=' :: rest) (hc : c ∈ rest) : c = '=' := by
  rcases List.append_eq_append_iff.mp h with ⟨us, -, hps'⟩ | ⟨us, hls', hrest⟩
  · apply hps
    rw [hps']
    exact List.mem_append_right us (List.mem_cons_of_mem _ hc)
  · cases us with
    | nil =>
      apply hps
      rw [← List.nil_append ps, ← hrest]
      exact List.mem_cons_of_mem _ hc
    | cons u us =>
      obtain ⟨hu, -⟩ := List.cons.inj hrest
      have hne := hls '=' (by rw [hls', ← hu]; simp)
      cases hne

lemma letter_ne_pad (v : Nat) : (letter v != '=') = true :=
  of_letter (p := fun c => c != '=') (by decide) v

lemma letter_inj {v w : Nat} (h : letter v = letter w) : v % 64 = w % 64 := by
  have hvalue := value?_letter v
  rw [h, value?_letter, Option.some.injEq] at hvalue
  exact hvalue.symm

lemma no_surplus {front : List Char} {v : Nat} (h : letters l = front ++ [letter v]) :
    ¬ (front.length % 4 = 1 ∧ v % 16 ≠ 0 ∨ front.length % 4 = 2 ∧ v % 4 ≠ 0) := by
  obtain ⟨vs, hvs, hfills, -⟩ := values_letters l
  obtain ⟨-, hletters⟩ := mapM_value?_eq_some_iff.mp hvs
  rw [h, eq_comm, List.map_eq_append_iff] at hletters
  obtain ⟨us, last, rfl, rfl, hlast⟩ := hletters
  obtain ⟨w, rest, rfl, hw, hrest⟩ := List.map_eq_cons_iff.mp hlast
  rw [List.map_eq_nil_iff.mp hrest] at hfills
  have hsame := letter_inj hw
  have hspare := fills_concat us w hfills
  rw [List.length_map]
  omega

lemma not_flawed (h : decode? s = some b) : ¬ Flawed s.toList := by
  obtain ⟨ls, hspells, hforms⟩ := decode?_iff_spells.mp h
  have hls : ∀ c ∈ ls, (c != '=') = true := by
    rw [spells_iff.mp hspells]
    exact fun c hc => ne_pad_of_mem_letters hc
  obtain ⟨k, hcs, hk⟩ : ∃ k, s.toList = ls ++ List.replicate k '=' ∧ (k = 0 ∨ 4 ∣ s.toList.length) := by
    rcases hforms with h | ⟨k, -, h, hgroups⟩
    · exact ⟨0, by rw [h, List.replicate_zero, List.append_nil], .inl rfl⟩
    · exact ⟨k, h, .inr hgroups⟩
  have hps : ∀ c ∈ List.replicate k '=', c = '=' := fun c hc => (List.mem_replicate.mp hc).2
  intro hflawed
  cases hflawed with
  | stray c hmem hc =>
    rw [hcs, List.mem_append] at hmem
    have hwritten : Written c := by
      rcases hmem with hmem | hmem
      · rw [spells_iff.mp hspells] at hmem
        exact .inr (letter_of_mem_letters c hmem)
      · exact .inl (hps c hmem)
    have hfine : (c != '+' && c != '/' && !isBlank c) = true :=
      of_written (p := fun c => c != '+' && c != '/' && !isBlank c) (by decide) (by decide) hwritten
    rcases hc with rfl | rfl | hc
    · cases hfine
    · cases hfine
    · simp [hc] at hfine
  | inside front rest c hfront hmem hc => exact hc (eq_pad_of_behind hls hps (hcs.symm.trans hfront) hmem)
  | uneven hmem hlen =>
    rcases hk with rfl | hgroups
    · rw [hcs, List.replicate_zero, List.append_nil] at hmem
      cases hls '=' hmem
    · exact hlen hgroups
  | surplus front v pads hfront hv =>
    have hclean : ∀ c ∈ front ++ [letter v], (c != '=') = true := by
      intro c hc
      rcases List.mem_append.mp hc with hc | hc
      · -- a padding character in front would stand before the letter
        by_contra hpad
        obtain rfl : c = '=' := by simpa using hpad
        obtain ⟨f, g, rfl⟩ := List.append_of_mem hc
        have hbehind := hcs.symm.trans hfront
        rw [List.append_assoc, List.cons_append] at hbehind
        have hletter := eq_pad_of_behind hls hps hbehind (c := letter v) (by simp)
        have hne := letter_ne_pad v
        rw [hletter] at hne
        cases hne
      · rw [List.mem_singleton.mp hc]
        exact letter_ne_pad v
    have hsame := congrArg (List.takeWhile (· != '=')) (hcs.symm.trans hfront)
    rw [takeWhile_padded hls hps, ← List.singleton_append, ← List.append_assoc,
      takeWhile_padded hclean fun c hc => (List.mem_replicate.mp hc).2] at hsame
    rw [spells_iff.mp hspells] at hsame
    exact no_surplus hsame hv

lemma toOption_eq_some_iff {ε α : Type} {x : Except ε α} {a : α} : x.toOption = some a ↔ x = .ok a := by
  cases x <;> simp [Except.toOption]

lemma ofHeaderText?_eq_some_iff : Token.ofHeaderText? value = some t ↔
    ∃ b, trim value ≠ "" ∧ decode? (trim value) = some b ∧ Token.decode b = .ok t := by
  simp only [Token.ofHeaderText?, String.isEmpty_iff]
  split
  · next h => simp [h]
  · next h =>
    simp only [Option.bind_eq_bind, Option.bind_eq_some_iff, ne_eq, h, not_false_eq_true, true_and]
    apply exists_congr
    intro b
    apply and_congr_right
    intro _
    exact toOption_eq_some_iff

lemma fits_of_decode (h : Token.decode b = .ok t) : ∀ f ∈ t.fields, Fits f := by
  obtain ⟨fs, hcut, hid, -, hnonce, hsignature⟩ := reads_of_decode (k := .token) h
  have hvalue {tag : UInt8} {c : ByteArray} (hlast : last tag fs = some c) : c.size < UInt32.size := by
    obtain ⟨f, hf, rfl⟩ := Option.map_eq_some_iff.mp hlast
    exact hcut.1 f (List.mem_reverse.mp (List.mem_of_find?_eq_some hf))
  have hbytes {tag : UInt8} {c : ByteArray} (htells : Tells Eq .empty (last tag fs) c) :
      c.size < UInt32.size := by
    rcases tells_cases htells with ⟨-, rfl⟩ | ⟨c, hlast, rfl⟩
    · decide
    · exact hvalue hlast
  simp only [Token.fields, List.forall_mem_cons]
  refine ⟨?_, fits_ofNat 2 _ (by decide), hbytes hnonce, hbytes hsignature, by simp⟩
  rcases tells_cases hid with ⟨-, hempty⟩ | ⟨c, hlast, hid⟩
  · exact fits_ofText 1 (by rw [hempty]; decide)
  · exact fits_ofText 1 (hid ▸ hvalue hlast)

lemma size_encode_pos (t : Token) : 0 < t.encode.size := by
  rw [Token.encode, Token.fields, size_encodeAll_cons, Field.headSize]
  omega

lemma ne_empty_of_decode? (h : decode? value = some b) (hb : 0 < b.size) : value ≠ "" := by
  rintro rfl
  rw [show decode? "" = some .empty by decide, Option.some.injEq] at h
  subst h
  cases hb

lemma read_of_written (hw : ∀ c ∈ value.toList, Written c) (hd : decode? value = some t.encode)
    {before after : String} (hb : allBlank before = true) (ha : allBlank after = true) :
    Token.ofHeaderText? (before ++ value ++ after) = (Token.decode t.encode).toOption := by
  have htrim : trim (before ++ value ++ after) = value := trim_surrounded hb ha (tight_of_written hw)
  have hempty : value.isEmpty = false := by
    rw [Bool.eq_false_iff, ne_eq, String.isEmpty_iff]
    exact ne_empty_of_decode? hd (size_encode_pos t)
  simp [Token.ofHeaderText?, htrim, hempty, hd]

lemma read_of_spelling (h : value = t.headerText ∨ value = strip t.headerText) {before after : String}
    (hb : allBlank before = true) (ha : allBlank after = true) :
    Token.ofHeaderText? (before ++ value ++ after) = (Token.decode t.encode).toOption := by
  rcases h with rfl | rfl
  · exact read_of_written (written_encode t.encode) (decode?_encode t.encode) hb ha
  · rw [Token.headerText, strip_encode]
    apply read_of_written _ (decode?_eq_some_iff.mpr (.inr rfl)) hb ha
    intro c hc
    rw [encodeUnpadded, String.toList_ofList] at hc
    exact .inr (letter_of_mem_letters c hc)

/-- A header value holds a token exactly when, but for the blanks around it, it spells bytes of the
token with all the padding or with none; bytes and letters determine each other. So either form of a
written token reads back as the token, as long as its parts fit their fields, and what is flawed is not
read at all. -/
theorem header_canonical :
    (∀ (value : String) (t : Token), Token.ofHeaderText? value = some t ↔ trim value ≠ "" ∧
      ∃ cs b, Spells cs b ∧ ((trim value).toList = cs ∨ Padded cs (trim value).toList) ∧
        Token.decode b = .ok t) ∧
    (∀ cs cs' b b', Spells cs b → Spells cs' b' → (cs = cs' ↔ b = b')) ∧
    (∀ (t : Token) (value before after : String), value = t.headerText ∨ value = strip t.headerText →
      allBlank before = true → allBlank after = true →
      Token.ofHeaderText? (before ++ value ++ after) = (Token.decode t.encode).toOption ∧
      (Token.ofHeaderText? (before ++ value ++ after) = some t ↔ ∀ f ∈ t.fields, Fits f) ∧
      ((∀ f ∈ t.fields, Fits f) → ∀ (k : Keyring) (now : Int64),
        k.acceptsHeaderAt (some (before ++ value ++ after)) now = k.acceptsAt t now)) ∧
    ∀ value : String, Flawed (trim value).toList → Token.ofHeaderText? value = none := by
  refine ⟨?_, ?_, ?_, ?_⟩
  · intro value t
    simp only [ofHeaderText?_eq_some_iff, decode?_iff_spells]
    constructor
    · rintro ⟨b, hne, ⟨cs, hspells, hform⟩, hd⟩
      exact ⟨hne, cs, b, hspells, hform, hd⟩
    · rintro ⟨hne, cs, b, hspells, hform, hd⟩
      exact ⟨b, hne, ⟨cs, hspells, hform⟩, hd⟩
  · intro cs cs' b b' h h'
    constructor
    · rintro rfl
      exact bytes_unique h h'
    · rintro rfl
      exact spells_unique h h'
  · intro t value before after hvalue hb ha
    have hread := read_of_spelling hvalue hb ha
    have hback : Token.ofHeaderText? (before ++ value ++ after) = some t ↔ ∀ f ∈ t.fields, Fits f := by
      rw [hread, toOption_eq_some_iff]
      exact ⟨fits_of_decode, decode_token t⟩
    refine ⟨hread, hback, fun hfits k now => ?_⟩
    rw [Keyring.acceptsHeaderAt, Option.bind_some, hback.mpr hfits]
  · intro value hflawed
    apply Option.eq_none_iff_forall_ne_some.mpr
    intro t ht
    obtain ⟨b, -, hd, -⟩ := ofHeaderText?_eq_some_iff.mp ht
    exact not_flawed hd hflawed

def terse : Token where
  secretId := "é"
  timestamp := -1
  nonce := ⟨#[0xFB, 0xFF]⟩
  signature := ⟨#[0x3E, 0]⟩

theorem header_canonical_terse : strip terse.headerText ≠ terse.headerText ∧
    Token.ofHeaderText? terse.headerText = some terse ∧
    Token.ofHeaderText? (" " ++ strip terse.headerText ++ "\u2003") = some terse ∧
    Spells ['-', '_', '8'] ⟨#[0xFB, 0xFF]⟩ ∧ Padded ['-', '_', '8'] "-_8=".toList ∧
    (∀ cs, Spells cs ⟨#[0xFB, 0xFF]⟩ → cs = ['-', '_', '8']) ∧
    Token.ofHeaderText? "-_8==" = none ∧ Token.ofHeaderText? "-_9" = none ∧
    Token.ofHeaderText? "+/8=" = none ∧ Token.ofHeaderText? "-_=8" = none := by
  obtain ⟨hreads, hunique, hspelled, hflawed⟩ := header_canonical
  have hfits : ∀ f ∈ terse.fields, Fits f := by
    simp only [Token.fields, List.forall_mem_cons, Fits]
    exact ⟨by decide, by decide, by decide, by decide, by simp⟩
  have hspells : Spells ['-', '_', '8'] ⟨#[0xFB, 0xFF]⟩ :=
    ⟨[62, 63, 60], 2, by decide, by decide, by decide⟩
  refine ⟨by decide, ?_, ?_, hspells, ⟨1, by decide, by decide, by decide⟩, ?_, ?_, ?_, ?_, ?_⟩
  · have htrim : trim terse.headerText = terse.headerText := trim_encode terse.encode
    have hletters := spells_letters terse.encode
    rw [hreads, htrim]
    refine ⟨by decide, _, terse.encode, hletters, .inr ?_, decode_token terse hfits⟩
    exact (padded_iff hletters).mpr (eq_encode_iff.mp rfl)
  · exact (hspelled terse _ " " "\u2003" (.inr rfl) (by decide) (by decide)).2.1.mpr hfits
  · exact fun cs hcs => (hunique _ _ _ _ hcs hspells).mpr rfl
  · exact hflawed _ (.uneven (by decide) (by decide))
  · exact hflawed _ (.surplus ['-', '_'] 61 0 (by decide) (by decide))
  · exact hflawed _ (.stray '+' (by decide) (.inl rfl))
  · exact hflawed _ (.inside ['-', '_'] ['8'] '8' (by decide) (by decide) (by decide))

end TwoHop.Proofs.Token.Canonical
