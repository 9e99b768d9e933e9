import Mathlib.Tactic.Common
import TwoHop.Proofs.Token.Signing

namespace TwoHop.Proofs.Token.Verification

open TwoHop.Digest Signing

def timeBytes (t : Int64) : ByteArray :=
  ⟨.ofFn fun i : Fin 8 => ((t.toInt % UInt64.size).toNat >>> (8 * i.val)).toUInt8⟩

def Signs (key : String) (t : Token) : Prop :=
  t.signature = hmac key.toUTF8 (t.secretId.toUTF8 ++ timeBytes t.timestamp ++ t.nonce)

def Near (now timestamp : Int64) : Prop := (now.toInt - timestamp.toInt).natAbs ≤ 15 * 60 * 1000

instance (now timestamp : Int64) : Decidable (Near now timestamp) :=
  inferInstanceAs (Decidable (_ ≤ _))

lemma littleEndian_eq_ofFn (width n : Nat) :
    Bytes.littleEndian width n = ⟨.ofFn fun i : Fin width => (n >>> (8 * i.val)).toUInt8⟩ := by
  induction width generalizing n with
  | zero => rfl
  | succ width ih =>
    have hbyte : n / 256 = n >>> 8 := (Nat.shiftRight_eq_div_pow n 8).symm
    rw [Bytes.littleEndian, ih, hbyte]
    apply ByteArray.ext
    simp [Array.ofFn_succ', ← Nat.shiftRight_add, Nat.mul_succ, Nat.add_comm 8, ByteArray.data_append]

lemma toNat_toUInt64 (t : Int64) : t.toUInt64.toNat = (t.toInt % UInt64.size).toNat := by
  have h : t.toBitVec = BitVec.ofInt 64 t.toInt := by
    rw [← Int64.toInt_toBitVec, BitVec.ofInt_toInt]
  show t.toBitVec.toNat = _
  rw [h, BitVec.toNat_ofInt]

lemma signedBytes_eq (id : String) (t : Int64) (nonce : ByteArray) :
    Token.signedBytes id t nonce = id.toUTF8 ++ timeBytes t ++ nonce := by
  rw [Token.signedBytes, littleEndian_eq_ofFn, toNat_toUInt64]
  rfl

lemma signs_iff (key : String) (t : Token) : Signs key t ↔ t.signatureBy key = t.signature := by
  rw [Signs, Token.signatureBy, Token.sign, signedBytes_eq, eq_comm]

lemma not_isEmpty_of_signs {key : String} {t : Token} (h : Signs key t) :
    t.signature.isEmpty = false := by
  apply not_isEmpty_of_size_pos
  rw [h, size_hmac]
  decide

lemma beq_bytes_iff (b c : ByteArray) : (b == c) = true ↔ b = c := by
  constructor
  · intro h
    exact ByteArray.ext (eq_of_beq h)
  · rintro rfl
    exact beq_bytes b

lemma isEmpty_iff (b : ByteArray) : b.isEmpty = true ↔ b = .empty := by
  constructor
  · exact Bytes.eq_empty_of_isEmpty
  · rintro rfl
    rfl

lemma make_eq_ok_iff {id key : String} {s : Secret} :
    Secret.make id key = .ok s ↔ (s.id, s.key) = (id, key) := by
  obtain ⟨sid, skey, hid, hkey⟩ := s
  rw [Secret.make]
  split
  · next h =>
    subst h
    simp [hid]
  · split
    · next h =>
      subst h
      simp [hkey]
    · simp [eq_comm]

lemma mapM_make_eq_ok_iff {entries : List (String × String)} {secrets : List Secret} :
    (entries.mapM fun e => Secret.make e.1 e.2) = .ok secrets ↔
      secrets.map (fun s => (s.id, s.key)) = entries := by
  induction entries generalizing secrets with
  | nil => cases secrets <;> simp [pure, Except.pure]
  | cons e entries ih =>
    rw [List.mapM_cons]
    constructor
    · intro h
      cases hs : Secret.make e.1 e.2 with
      | error f =>
        rw [hs] at h
        cases h
      | ok s =>
        rw [hs] at h
        cases hrest : entries.mapM fun e => Secret.make e.1 e.2 with
        | error f =>
          rw [hrest] at h
          cases h
        | ok rest =>
          rw [hrest] at h
          cases h
          rw [List.map_cons, make_eq_ok_iff.mp hs, ih.mp hrest]
    · intro h
      obtain ⟨s, rest, rfl, hs, hrest⟩ := List.map_eq_cons_iff.mp h
      rw [make_eq_ok_iff.mpr hs, ih.mpr hrest]
      rfl

lemma keyring_make_eq_ok_iff {entries : List (String × String)} {k : Keyring} :
    Keyring.make entries = .ok k ↔ k.secrets.map (fun s => (s.id, s.key)) = entries := by
  obtain ⟨secrets⟩ := k
  rw [← mapM_make_eq_ok_iff]
  show ((entries.mapM fun e => Secret.make e.1 e.2) >>= fun l => pure (Keyring.mk l)) = _ ↔ _
  cases entries.mapM fun e => Secret.make e.1 e.2 with
  | error f => simp [bind, Except.bind]
  | ok l => simp [bind, Except.bind, pure, Except.pure]

lemma mem_secrets_iff {entries : List (String × String)} {k : Keyring}
    (hk : Keyring.make entries = .ok k) (id key : String) :
    (∃ s ∈ k.secrets, s.id = id ∧ s.key = key) ↔ (id, key) ∈ entries := by
  rw [← keyring_make_eq_ok_iff.mp hk]
  simp

lemma exists_make_iff (entries : List (String × String)) :
    (∃ k, Keyring.make entries = .ok k) ↔ ∀ e ∈ entries, e.1 ≠ "" ∧ e.2 ≠ "" := by
  constructor
  · rintro ⟨k, hk⟩ ⟨id, key⟩ he
    obtain ⟨s, -, rfl, rfl⟩ := (mem_secrets_iff hk id key).mpr he
    exact ⟨s.id_ne, s.key_ne⟩
  · intro h
    refine ⟨⟨entries.pmap (fun e he => ⟨e.1, e.2, he.1, he.2⟩) h⟩, ?_⟩
    rw [keyring_make_eq_ok_iff, List.map_pmap]
    simp

lemma any_signs_iff {entries : List (String × String)} {k : Keyring}
    (hk : Keyring.make entries = .ok k) (t : Token) :
    (k.secrets.any fun s => s.id == t.secretId && t.signatureBy s.key == t.signature) = true ↔
      ∃ key, (t.secretId, key) ∈ entries ∧ Signs key t := by
  simp only [List.any_eq_true, Bool.and_eq_true, beq_iff_eq, beq_bytes_iff]
  constructor
  · rintro ⟨s, hs, hid, hsigns⟩
    exact ⟨s.key, (mem_secrets_iff hk _ _).mp ⟨s, hs, hid, rfl⟩, (signs_iff _ _).mpr hsigns⟩
  · rintro ⟨key, hmem, hsigns⟩
    obtain ⟨s, hs, hid, rfl⟩ := (mem_secrets_iff hk _ _).mpr hmem
    exact ⟨s, hs, hid, (signs_iff _ _).mp hsigns⟩

lemma acceptsAt_iff {entries : List (String × String)} {k : Keyring}
    (hk : Keyring.make entries = .ok k) (t : Token) (now : Int64) :
    k.acceptsAt t now = true ↔ t.secretId ≠ "" ∧ t.nonce ≠ .empty ∧ Near now t.timestamp ∧
      ∃ key, (t.secretId, key) ∈ entries ∧ Signs key t := by
  rw [Keyring.acceptsAt, Bool.and_eq_true, any_signs_iff hk]
  simp only [Bool.and_eq_true, decide_eq_true_eq, Bool.not_eq_true', ← Bool.not_eq_true, isEmpty_iff]
  constructor
  · rintro ⟨⟨⟨⟨hid, hnonce⟩, -⟩, hskew⟩, hsigned⟩
    exact ⟨hid, hnonce, hskew, hsigned⟩
  · rintro ⟨hid, hnonce, hskew, key, hmem, hsigns⟩
    have hsignature := not_isEmpty_of_signs hsigns
    exact ⟨⟨⟨⟨hid, hnonce⟩, by simpa [← isEmpty_iff] using hsignature⟩, hskew⟩, key, hmem, hsigns⟩

lemma signs_sign {id key : String} {s : Secret} (hs : Secret.make id key = .ok s) (clock : Int64)
    (nonce : ByteArray) : Signs key (s.sign clock nonce) := by
  obtain ⟨rfl, rfl⟩ := Prod.mk.inj (make_eq_ok_iff.mp hs)
  rw [signs_iff]
  rfl

/-- A keyring can be made when every entry has an id and a key. What it accepts depends on the
entries for the token's id alone, and more entries never make it accept less. -/
theorem token_acceptance (entries : List (String × String)) :
    ((∃ k, Keyring.make entries = .ok k) ↔ ∀ e ∈ entries, e.1 ≠ "" ∧ e.2 ≠ "") ∧
    ∀ k, Keyring.make entries = .ok k →
      (∀ (t : Token) (now : Int64), k.acceptsAt t now = true ↔
        t.secretId ≠ "" ∧ t.nonce ≠ .empty ∧ Near now t.timestamp ∧
          ∃ key, (t.secretId, key) ∈ entries ∧ Signs key t) ∧
      (∀ entries' k' t now, Keyring.make entries' = .ok k' →
        (∀ key, (t.secretId, key) ∈ entries ↔ (t.secretId, key) ∈ entries') →
        k.acceptsAt t now = k'.acceptsAt t now) ∧
      (∀ entries' k' t now, Keyring.make entries' = .ok k' → entries ⊆ entries' →
        k.acceptsAt t now = true → k'.acceptsAt t now = true) ∧
      ∀ id key s clock nonce now, Secret.make id key = .ok s → (id, key) ∈ entries →
        nonce.size = Token.nonceSize →
        (k.acceptsAt (s.sign clock nonce) now = true ↔ Near now clock) := by
  refine ⟨exists_make_iff entries, ?_⟩
  intro k hk
  refine ⟨acceptsAt_iff hk, ?_, ?_, ?_⟩
  · intro entries' k' t now hk' hsame
    rw [Bool.eq_iff_iff, acceptsAt_iff hk, acceptsAt_iff hk']
    simp only [hsame]
  · intro entries' k' t now hk' hsub haccepts
    obtain ⟨hid, hnonce, hnear, key, hmem, hsigns⟩ := (acceptsAt_iff hk t now).mp haccepts
    exact (acceptsAt_iff hk' t now).mpr ⟨hid, hnonce, hnear, key, hsub hmem, hsigns⟩
  · intro id key s clock nonce now hs hmem hnonce
    have hsigns := signs_sign hs clock nonce
    obtain ⟨rfl, rfl⟩ := Prod.mk.inj (make_eq_ok_iff.mp hs)
    rw [acceptsAt_iff hk]
    constructor
    · exact fun h => h.2.2.1
    · intro hnear
      refine ⟨s.id_ne, ?_, hnear, s.key, hmem, hsigns⟩
      rintro rfl
      cases hnonce

theorem token_acceptance_rotated : ∃ k s, Keyring.make [("a", "old"), ("b", "x"), ("a", "new")] = .ok k ∧
    Secret.make "a" "old" = .ok s ∧
    k.acceptsAt (s.sign Int64.maxValue ⟨.replicate 16 0⟩) (Int64.maxValue - 900000) = true ∧
    k.acceptsAt (s.sign Int64.maxValue ⟨.replicate 16 0⟩) (Int64.maxValue - 900001) = false ∧
    k.acceptsAt (s.sign Int64.maxValue ⟨.replicate 16 0⟩) Int64.minValue = false := by
  obtain ⟨hmakes, haccepts⟩ := token_acceptance [("a", "old"), ("b", "x"), ("a", "new")]
  obtain ⟨k, hk⟩ := hmakes.mpr (by decide)
  obtain ⟨-, -, -, hsigned⟩ := haccepts k hk
  have hs : Secret.make "a" "old" = .ok ⟨"a", "old", by decide, by decide⟩ := rfl
  have hnear (now : Int64) := hsigned "a" "old" _ Int64.maxValue ⟨.replicate 16 0⟩ now hs (by decide) rfl
  refine ⟨k, _, hk, hs, (hnear _).mpr ?_, ?_, ?_⟩
  · decide
  · rw [Bool.eq_false_iff, ne_eq, hnear]
    decide
  · rw [Bool.eq_false_iff, ne_eq, hnear]
    decide

end TwoHop.Proofs.Token.Verification
