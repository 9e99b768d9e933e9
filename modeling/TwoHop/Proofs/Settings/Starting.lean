import Mathlib.Data.List.Basic
import TwoHop.Proofs.Text.Letters
import TwoHop.Proofs.Text.Trimming
import TwoHop.Proofs.Token.Verification
import TwoHop.Settings.Validity

/-! Valid settings are enough to start with, up to one letter: the dotless i. A level that is spelled
with it is valid, because its upper case is the name of a level, and yet it is not read as one. -/

namespace TwoHop.Proofs.Settings.Starting

open TwoHop.Text TwoHop.Log TwoHop.Settings
open Text.Letters Text.Trimming Token.Verification

variable {s t : String} {c : Char} {cs : List Char} {l : Level} {max acc : Nat}

lemma toList_upperText (s : String) :
    (upperText s).toList = s.toList.flatMap fun c => (upperChar c).toList := by
  rw [upperText, String.toList_join, List.flatMap_map]

lemma dotless_of_lookup (h : upperOutside.lookup c = some t) (hpart : t.toList <:+: l.name.toList) :
    c = 'ı' := by
  have hall : ∀ l ∈ Level.all, ∀ p ∈ upperOutside, p.2.toList <:+: l.name.toList → p.1 = 'ı' := by
    decide +kernel
  obtain ⟨front, back, hsplit, -⟩ := List.lookup_eq_some_iff.mp h
  apply hall l (by cases l <;> decide) (c, t) _ hpart
  rw [hsplit]
  exact List.mem_append_right _ List.mem_cons_self

lemma upperChar_of_part (hpart : (upperChar c).toList <:+: l.name.toList) (hc : c ≠ 'ı') :
    (upperChar c).toList = [c.toUpper] := by
  rw [upperChar] at hpart ⊢
  cases h : upperOutside.lookup c with
  | none => exact String.toList_singleton c.toUpper
  | some t =>
    rw [h, Option.getD_some] at hpart
    exact absurd (dotless_of_lookup h hpart) hc

lemma upper_of_upperText (h : upperText s = l.name) (hs : 'ı' ∉ s.toList) : upper s = l.name := by
  have hparts : ∀ c ∈ s.toList, (upperChar c).toList <:+: l.name.toList := by
    intro c hc
    rw [← h, toList_upperText, List.flatMap_def]
    exact List.infix_of_mem_flatten (List.mem_map_of_mem hc)
  rw [← h]
  apply String.toList_injective
  rw [toList_upperText, upper, String.toList_map, List.map_eq_flatMap]
  apply List.flatMap_congr
  intro c hc
  exact (upperChar_of_part (hparts c hc) (ne_of_mem_of_not_mem hc hs)).symm

lemma same_of_upper (h : upper s = l.name) : sameIgnoringCase l.name s = true := by
  rw [sameIgnoringCase, beq_iff_eq, ← h, lower_upper]

lemma isAlpha_of_upper (h : upper s = l.name) (hc : c ∈ s.toList) : c.isAlpha = true := by
  have hnames : l.name.toList.all Char.isUpper = true := by
    cases l <;> decide
  apply isAlpha_of_toUpper
  apply List.all_eq_true.mp hnames
  rw [← h, upper, String.toList_map]
  exact List.mem_map_of_mem hc

lemma toNat_of_isAlpha (h : c.isAlpha = true) :
    65 ≤ c.toNat ∧ c.toNat ≤ 90 ∨ 97 ≤ c.toNat ∧ c.toNat ≤ 122 := by
  rw [isAlpha_iff, isUpper_iff, isLower_iff] at h
  simpa [UInt32.le_iff_toNat_le] using h

lemma not_isDigit_of_isAlpha (h : c.isAlpha = true) : c.isDigit = false := by
  have hrange := toNat_of_isAlpha h
  simp [Char.isDigit, UInt32.le_iff_toNat_le]
  omega

lemma not_isBlank_of_isAlpha (h : c.isAlpha = true) : isBlank c = false := by
  have hrange := toNat_of_isAlpha h
  simp [isBlank, UInt32.le_iff_toNat_le, ← UInt32.toNat_inj]
  omega

lemma digitsFrom_eq_none (hc : c ∈ cs) (hdigit : c.isDigit = false) : digitsFrom max acc cs = none := by
  induction cs generalizing acc with
  | nil => cases hc
  | cons d ds ih =>
    rw [digitsFrom]
    rcases List.mem_cons.mp hc with rfl | hmem
    · simp [digit?, hdigit]
    · cases digit? d with
      | none => rfl
      | some n =>
        show (if acc * 10 + n ≤ max then digitsFrom max (acc * 10 + n) ds else none) = none
        rw [ih hmem, ite_self]

lemma decimal?_eq_none (hc : c ∈ cs) (hdigit : c.isDigit = false) (hsign : c ≠ '+') :
    decimal? max cs = none := by
  unfold decimal?
  split
  · exact digitsFrom_eq_none ((List.mem_cons.mp hc).resolve_left hsign) hdigit
  · rfl
  · rfl
  · exact digitsFrom_eq_none hc hdigit

lemma trim_of_upper (h : upper s = l.name) : trim s = s := by
  have htight : Tight s.toList := by
    apply tight_of_not_blank
    rw [List.all_eq_true]
    intro c hc
    rw [not_isBlank_of_isAlpha (isAlpha_of_upper h hc)]
    rfl
  rw [trim, trimList_of_tight htight, String.ofList_toList]

lemma ofName?_of_upper (h : upper s = l.name) : Level.ofName? s = some l := by
  rw [← Level.ofName?_name l, Level.ofName?, Level.ofName?]
  simp only [sameIgnoringCase, eq_of_beq (same_of_upper h)]

lemma parse?_of_upper (h : upper s = l.name) : Level.parse? s = some l := by
  have hnumber : decimal? Level.maxNumber s.toList = none := by
    cases hs : s.toList with
    | nil => rfl
    | cons c cs =>
      have halpha := isAlpha_of_upper h (c := c) (by rw [hs]; exact List.mem_cons_self)
      apply decimal?_eq_none List.mem_cons_self (not_isDigit_of_isAlpha halpha)
      rintro rfl
      cases halpha
  rw [Level.parse?, trim_of_upper h, hnumber]
  exact ofName?_of_upper h

lemma not_same_of_dotless (h : 'ı' ∈ s.toList) : sameIgnoringCase l.name s = false := by
  rw [Bool.eq_false_iff]
  intro hsame
  have hlower : l.name.toList.map Char.toLower = s.toList.map Char.toLower := by
    rw [← String.toList_map, ← String.toList_map]
    exact congrArg String.toList (eq_of_beq hsame)
  have hmem : 'ı'.toLower ∈ l.name.toList.map Char.toLower := hlower ▸ List.mem_map_of_mem h
  revert hmem
  cases l <;> decide

lemma parse?_of_dotless (h : 'ı' ∈ s.toList) : Level.parse? s = none := by
  have hkept : 'ı' ∈ (trim s).toList := by
    rw [trim, String.toList_ofList]
    exact mem_trimList h (by decide)
  have hname : Level.ofName? (trim s) = none := by
    rw [Level.ofName?, List.find?_eq_none]
    intro l _
    rw [not_same_of_dotless hkept]
    exact Bool.false_ne_true
  rw [Level.parse?, decimal?_eq_none hkept (by decide) (by decide)]
  exact hname

lemma read_of_isLevelName (h : isLevelName s = true) :
    ∃ l : Level, upperText s = l.name ∧ Level.parse? s = if 'ı' ∈ s.toList then none else some l := by
  rw [isLevelName, List.contains_iff_mem, List.mem_map] at h
  obtain ⟨l, -, hl⟩ := h
  refine ⟨l, hl.symm, ?_⟩
  split
  · next hs => exact parse?_of_dotless hs
  · next hs => exact parse?_of_upper (upper_of_upperText hl.symm hs)

section

variable {ε α : Type}

lemma then_eq_ok_iff {x : Except ε Unit} {f : Unit → Except ε Unit} :
    (x >>= f) = .ok () ↔ x = .ok () ∧ f () = .ok () := by
  cases x <;> simp [bind, Except.bind]

lemma forM_eq_ok_iff {f : α → Except ε Unit} {as : List α} :
    as.forM f = .ok () ↔ ∀ a ∈ as, f a = .ok () := by
  induction as with
  | nil => simp [pure, Except.pure]
  | cons a as ih =>
    rw [List.forM_eq_forM, List.forM_cons, then_eq_ok_iff, List.forall_mem_cons]
    exact and_congr_right fun _ => ih

end

lemma ne_of_needText {field text : String} (h : needText field text = .ok ()) : text ≠ "" := by
  rintro rfl
  cases h

lemma isLevelName_of_validate {log : Settings.Log} (h : log.validate = .ok ()) :
    isLevelName log.level = true := by
  rw [Log.validate, then_eq_ok_iff, need_eq_ok] at h
  exact h.1

lemma Entry.ne_of_validate {e : Entry} (h : e.validate = .ok ()) : e.id ≠ "" ∧ e.key ≠ "" := by
  rw [Entry.validate, then_eq_ok_iff] at h
  exact ⟨ne_of_needText h.1, ne_of_needText h.2⟩

lemma remote_of_validate {s : RemoteSettings} (h : s.validate = .ok ()) :
    isLevelName s.log.level = true ∧ s.entries ≠ [] ∧ ∀ e ∈ s.entries, e.id ≠ "" ∧ e.key ≠ "" := by
  simp only [RemoteSettings.validate, then_eq_ok_iff, need_eq_ok, forM_eq_ok_iff] at h
  obtain ⟨hlog, -, -, -, -, hentries, hall, -⟩ := h
  refine ⟨isLevelName_of_validate hlog, ?_, fun e he => Entry.ne_of_validate (hall e he)⟩
  intro hempty
  rw [hempty] at hentries
  cases hentries

lemma local_of_validate {s : LocalSettings} (h : s.validate = .ok ()) :
    isLevelName s.log.level = true ∧ s.secretId ≠ "" ∧ s.secretKey ≠ "" := by
  simp only [LocalSettings.validate, then_eq_ok_iff] at h
  obtain ⟨hlog, -, -, -, -, -, hid, hkey, -⟩ := h
  exact ⟨isLevelName_of_validate hlog, ne_of_needText hid, ne_of_needText hkey⟩

lemma exists_secret {id key : String} (hid : id ≠ "") (hkey : key ≠ "") :
    ∃ secret, Secret.make id key = .ok secret :=
  ⟨⟨id, key, hid, hkey⟩, make_eq_ok_iff.mpr rfl⟩

lemma size_pos_of_make {entries : List (String × String)} {k : Keyring}
    (hk : Keyring.make entries = .ok k) (hentries : entries ≠ []) : 0 < k.size := by
  have hpairs := keyring_make_eq_ok_iff.mp hk
  rw [Keyring.size, Keyring.ids, List.length_mergeSort]
  cases hsecrets : k.secrets with
  | nil =>
    rw [hsecrets] at hpairs
    exact absurd hpairs.symm hentries
  | cons secret secrets =>
    rw [List.map_cons, List.eraseDups_cons]
    exact Nat.succ_pos _

lemma accepts_sign_iff {entries : List (String × String)} {k : Keyring} {id key : String}
    {secret : Secret} (hk : Keyring.make entries = .ok k) (hsecret : Secret.make id key = .ok secret)
    (hmem : (id, key) ∈ entries) (clock now : Int64) {nonce : ByteArray}
    (hnonce : nonce.size = Token.nonceSize) :
    k.acceptsAt (secret.sign clock nonce) now = true ↔ Near now clock := by
  have hsigns := signs_sign hsecret clock nonce
  obtain ⟨rfl, rfl⟩ := Prod.mk.inj (make_eq_ok_iff.mp hsecret)
  rw [acceptsAt_iff hk]
  constructor
  · exact fun h => h.2.2.1
  · intro hnear
    refine ⟨secret.id_ne, ?_, hnear, secret.key, hmem, hsigns⟩
    rintro rfl
    cases hnonce

theorem valid_settings_start (r : RemoteSettings) (s : LocalSettings) :
    (r.validate = .ok () →
      (∃ l : Level, upperText r.log.level = l.name ∧
        Level.parse? r.log.level = if 'ı' ∈ r.log.level.toList then none else some l) ∧
      ∃ k, r.keyring = .ok k ∧ 0 < k.size ∧
        ∀ e ∈ r.entries, ∃ secret, Secret.make e.id e.key = .ok secret ∧
          ∀ clock now nonce, nonce.size = Token.nonceSize →
            (k.acceptsAt (secret.sign clock nonce) now = true ↔ Near now clock)) ∧
    (s.validate = .ok () →
      (∃ l : Level, upperText s.log.level = l.name ∧
        Level.parse? s.log.level = if 'ı' ∈ s.log.level.toList then none else some l) ∧
      ∃ secret, s.secret = .ok secret ∧
        ∀ k, ⟨s.secretId, s.secretKey⟩ ∈ r.entries → r.keyring = .ok k →
          ∀ clock now nonce, nonce.size = Token.nonceSize →
            (k.acceptsAt (secret.sign clock nonce) now = true ↔ Near now clock)) := by
  have hpair {e : Entry} (he : e ∈ r.entries) :
      (e.id, e.key) ∈ r.entries.map fun e => (e.id, e.key) := List.mem_map_of_mem he
  refine ⟨?_, ?_⟩
  · intro hr
    obtain ⟨hlevel, hentries, hfilled⟩ := remote_of_validate hr
    obtain ⟨k, hk⟩ : ∃ k, r.keyring = .ok k := by
      apply (exists_make_iff _).mpr
      intro p hp
      obtain ⟨e, he, rfl⟩ := List.mem_map.mp hp
      exact hfilled e he
    refine ⟨read_of_isLevelName hlevel, k, hk, ?_, ?_⟩
    · apply size_pos_of_make hk
      rwa [ne_eq, List.map_eq_nil_iff]
    · intro e he
      obtain ⟨hid, hkey⟩ := hfilled e he
      obtain ⟨secret, hsecret⟩ := exists_secret hid hkey
      refine ⟨secret, hsecret, ?_⟩
      intro clock now nonce hnonce
      exact accepts_sign_iff hk hsecret (hpair he) clock now hnonce
  · intro hs
    obtain ⟨hlevel, hid, hkey⟩ := local_of_validate hs
    obtain ⟨secret, hsecret⟩ := exists_secret hid hkey
    refine ⟨read_of_isLevelName hlevel, secret, hsecret, ?_⟩
    intro k hlisted hk clock now nonce hnonce
    exact accepts_sign_iff hk hsecret (hpair hlisted) clock now hnonce

theorem valid_settings_start_paired :
    let r : RemoteSettings := { entries := [⟨"phone", "other"⟩, ⟨"laptop", " c2V "⟩] }
    let s : LocalSettings :=
      { log := { level := "wArn" }, remoteHost := "proxy.example.com", secretId := "laptop",
        secretKey := " c2V " }
    r.validate = .ok () ∧ s.validate = .ok () ∧ Level.parse? s.log.level = some .warn ∧
      ∃ k secret, r.keyring = .ok k ∧ s.secret = .ok secret ∧ ∀ nonce, nonce.size = 16 →
        k.acceptsAt (secret.sign 1000000 nonce) 1900000 = true ∧
        k.acceptsAt (secret.sign 1000000 nonce) 1900001 = false := by
  intro r s
  have hr : r.validate = .ok () := by decide
  have hs : s.validate = .ok () := by decide
  obtain ⟨hremote, hlocal⟩ := valid_settings_start r s
  obtain ⟨-, k, hk, -, -⟩ := hremote hr
  obtain ⟨⟨l, hl, hparse⟩, secret, hsecret, haccepts⟩ := hlocal hs
  have hwarn : l = .warn := by
    revert hl
    cases l <;> decide
  refine ⟨hr, hs, ?_, k, secret, hk, hsecret, ?_⟩
  · rw [hparse, hwarn]
    decide
  intro nonce hnonce
  have hlisted : ⟨s.secretId, s.secretKey⟩ ∈ r.entries := List.mem_cons_of_mem _ List.mem_cons_self
  have hnear (now : Int64) := haccepts k hlisted hk 1000000 now nonce hnonce
  refine ⟨(hnear _).mpr (by decide), ?_⟩
  rw [Bool.eq_false_iff, ne_eq, hnear]
  decide

/-- Both agents find these settings valid, and neither has a level to log at. -/
theorem dotless_level :
    let log : Settings.Log := { level := "ınfo" }
    let r : RemoteSettings := { log, entries := [⟨"laptop", "c2VjcmV0"⟩] }
    let s : LocalSettings :=
      { log, remoteHost := "proxy.example.com", secretId := "laptop", secretKey := "c2VjcmV0" }
    r.validate = .ok () ∧ s.validate = .ok () ∧ Level.parse? log.level = none := by
  decide +kernel

end TwoHop.Proofs.Settings.Starting
