import TwoHop.Proofs.Bytes
import TwoHop.Proofs.Token.Verification

namespace TwoHop.Proofs.Token.Binding

open TwoHop.Digest
open Proofs.Bytes Verification

structure Subject where
  id : String
  time : Int64
  nonce : ByteArray
  deriving DecidableEq

def Subject.bytes (s : Subject) : ByteArray := Token.signedBytes s.id s.time s.nonce

def subject (t : Token) : Subject := ⟨t.secretId, t.timestamp, t.nonce⟩

def Shifted (s u : Subject) : Prop :=
  ∃ moved : ByteArray, 0 < moved.size ∧ u.id.toUTF8 = s.id.toUTF8 ++ moved ∧
    timeBytes s.time ++ s.nonce = moved ++ (timeBytes u.time ++ u.nonce)

def Collide (key message key' message' : ByteArray) : Prop :=
  (key, message) ≠ (key', message') ∧ hmac key message = hmac key' message'

variable {s u : Subject} {n m : Nat}

lemma littleEndian_inj {width : Nat} (hn : n < Nat.pow 256 width) (hm : m < Nat.pow 256 width)
    (h : Bytes.littleEndian width n = Bytes.littleEndian width m) : n = m := by
  induction width generalizing n m with
  | zero =>
    rw [show n = 0 from Nat.lt_one_iff.mp hn, show m = 0 from Nat.lt_one_iff.mp hm]
  | succ width ih =>
    change n < Nat.pow 256 width * 256 at hn
    change m < Nat.pow 256 width * 256 at hm
    obtain ⟨hlow, hhigh⟩ := append_inj h rfl
    have hdiv := ih (by omega) (by omega) hhigh
    have hbyte : n.toUInt8 = m.toUInt8 := by
      have hdata := congrArg (fun b : ByteArray => b.data.toList) hlow
      simpa using hdata
    have hmod := congrArg UInt8.toNat hbyte
    rw [Nat.toUInt8_eq, Nat.toUInt8_eq, UInt8.toNat_ofNat', UInt8.toNat_ofNat'] at hmod
    omega

lemma timeBytes_eq (t : Int64) : timeBytes t = Bytes.littleEndian 8 t.toUInt64.toNat := by
  rw [littleEndian_eq_ofFn, toNat_toUInt64]
  rfl

lemma size_timeBytes (t : Int64) : (timeBytes t).size = 8 := by
  rw [timeBytes_eq, Bytes.size_littleEndian]

lemma timeBytes_inj {t t' : Int64} (h : timeBytes t = timeBytes t') : t = t' := by
  rw [timeBytes_eq, timeBytes_eq] at h
  have hnat := littleEndian_inj t.toUInt64.toNat_lt t'.toUInt64.toNat_lt h
  rw [← Int64.toInt64_toUInt64 t, ← Int64.toInt64_toUInt64 t', UInt64.toNat_inj.mp hnat]

lemma toUTF8_inj {a b : String} (h : a.toUTF8 = b.toUTF8) : a = b := String.toByteArray_inj.mp h

lemma cut_of_append {a b c d : ByteArray} (h : a ++ b = c ++ d) (hle : a.size ≤ c.size) :
    ∃ moved, c = a ++ moved ∧ b = moved ++ d := by
  have hc := extract_append_rejoin hle
  rw [← hc, ByteArray.append_assoc] at h
  obtain ⟨ha, hb⟩ := append_inj h (by rw [ByteArray.size_extract]; omega)
  rw [← ha] at hc
  exact ⟨_, hc.symm, hb⟩

lemma bytes_eq (s : Subject) : s.bytes = s.id.toUTF8 ++ (timeBytes s.time ++ s.nonce) := by
  rw [Subject.bytes, signedBytes_eq, ByteArray.append_assoc]

lemma size_bytes (s : Subject) : s.bytes.size = s.id.toUTF8.size + 8 + s.nonce.size := by
  rw [bytes_eq, ByteArray.size_append, ByteArray.size_append, size_timeBytes]
  omega

lemma bytes_of_shifted (h : Shifted s u) : s.bytes = u.bytes := by
  obtain ⟨moved, -, hid, hrest⟩ := h
  rw [bytes_eq, bytes_eq, hid, hrest, ByteArray.append_assoc]

lemma shifted_of_bytes (h : s.bytes = u.bytes) (hlt : s.id.toUTF8.size < u.id.toUTF8.size) :
    Shifted s u := by
  rw [bytes_eq, bytes_eq] at h
  obtain ⟨moved, hid, hrest⟩ := cut_of_append h (Nat.le_of_lt hlt)
  refine ⟨moved, ?_, hid, hrest⟩
  rw [hid, ByteArray.size_append] at hlt
  omega

lemma eq_of_bytes (h : s.bytes = u.bytes) (hsize : s.id.toUTF8.size = u.id.toUTF8.size) : s = u := by
  obtain ⟨id, time, nonce⟩ := s
  obtain ⟨id', time', nonce'⟩ := u
  rw [bytes_eq, bytes_eq] at h
  obtain ⟨hid, hrest⟩ := append_inj h hsize
  obtain ⟨htime, hnonce⟩ := append_inj hrest (by rw [size_timeBytes, size_timeBytes])
  obtain rfl : id = id' := toUTF8_inj hid
  obtain rfl : time = time' := timeBytes_inj htime
  obtain rfl : nonce = nonce' := hnonce
  rfl

lemma bytes_eq_iff (s u : Subject) : s.bytes = u.bytes ↔ s = u ∨ Shifted s u ∨ Shifted u s := by
  constructor
  · intro h
    rcases Nat.lt_trichotomy s.id.toUTF8.size u.id.toUTF8.size with hlt | heq | hgt
    · exact .inr (.inl (shifted_of_bytes h hlt))
    · exact .inl (eq_of_bytes h heq)
    · exact .inr (.inr (shifted_of_bytes h.symm hgt))
  · rintro (rfl | h | h)
    · rfl
    · exact bytes_of_shifted h
    · exact (bytes_of_shifted h).symm

lemma bytes_ne_of_sizes (hne : s ≠ u)
    (hsize : s.id.utf8ByteSize = u.id.utf8ByteSize ∨ s.nonce.size = u.nonce.size) :
    s.bytes ≠ u.bytes := by
  intro h
  have htotal := congrArg ByteArray.size h
  rw [size_bytes, size_bytes] at htotal
  apply hne
  apply eq_of_bytes h
  rcases hsize with hid | hnonce
  · exact hid
  · omega

lemma acceptsAt_of_bytes {entries : List (String × String)} {k : Keyring} {key : String} {t : Token}
    {now : Int64} (hk : Keyring.make entries = .ok k) (hkey : (t.secretId, key) ∈ entries)
    (hsignature : t.signature = Token.sign s.id s.time s.nonce key.toUTF8)
    (hbytes : s.bytes = (subject t).bytes) (hid : t.secretId ≠ "") (hnonce : t.nonce ≠ .empty)
    (hnear : Near now t.timestamp) : k.acceptsAt t now = true := by
  have hsigns : Signs key t := by
    rw [signs_iff, hsignature]
    show hmac key.toUTF8 (subject t).bytes = hmac key.toUTF8 s.bytes
    rw [hbytes]
  exact (acceptsAt_iff hk t now).mpr ⟨hid, hnonce, hnear, key, hkey, hsigns⟩

/-- Two subjects have the same signed bytes only if they are the same or one is the other with a
part of its time and nonce moved into the id; never if their ids have one length, or their nonces. So
a signature is accepted for another subject only when that is such a shift, or when digests collide. -/
theorem signature_binding (s u : Subject) :
    (s.bytes = u.bytes ↔ s = u ∨ Shifted s u ∨ Shifted u s) ∧
    (s ≠ u → s.id.utf8ByteSize = u.id.utf8ByteSize ∨ s.nonce.size = u.nonce.size →
      s.bytes ≠ u.bytes) ∧
    ∀ (entries : List (String × String)) k key t now, Keyring.make entries = .ok k → subject t = u →
      t.signature = Token.sign s.id s.time s.nonce key.toUTF8 →
      (k.acceptsAt t now = true →
        (u.id, key) ∈ entries ∧ (s = u ∨ Shifted s u ∨ Shifted u s) ∨
        ∃ key', (u.id, key') ∈ entries ∧ Collide key.toUTF8 s.bytes key'.toUTF8 u.bytes) ∧
      ((u.id, key) ∈ entries → (s = u ∨ Shifted s u ∨ Shifted u s) → u.id ≠ "" → u.nonce ≠ .empty →
        Near now u.time → k.acceptsAt t now = true) := by
  refine ⟨bytes_eq_iff s u, bytes_ne_of_sizes, ?_⟩
  rintro entries k key t now hk rfl hsignature
  constructor
  · intro haccepts
    obtain ⟨-, -, -, key', hkey', hsigns⟩ := (acceptsAt_iff hk t now).mp haccepts
    have hdigest : hmac key.toUTF8 s.bytes = hmac key'.toUTF8 (subject t).bytes :=
      hsignature.symm.trans ((signs_iff key' t).mp hsigns).symm
    by_cases hsame : (key.toUTF8, s.bytes) = (key'.toUTF8, (subject t).bytes)
    · obtain ⟨hkey, hbytes⟩ := Prod.mk.inj hsame
      obtain rfl := toUTF8_inj hkey
      exact .inl ⟨hkey', (bytes_eq_iff s _).mp hbytes⟩
    · exact .inr ⟨key', hkey', hsame, hdigest⟩
  · intro hkey hcut hid hnonce hnear
    exact acceptsAt_of_bytes hk hkey hsignature ((bytes_eq_iff s _).mpr hcut) hid hnonce hnear

theorem signature_moves : ∃ s u : Subject,
    s = ⟨"a", 98, ⟨.replicate 16 0⟩⟩ ∧ u = ⟨"ab", 0, ⟨.replicate 15 0⟩⟩ ∧ s ≠ u ∧ s.bytes = u.bytes ∧
    ∃ k, Keyring.make [("a", "k"), ("ab", "k")] = .ok k ∧
      k.acceptsAt ⟨u.id, u.time, u.nonce, Token.sign s.id s.time s.nonce "k".toUTF8⟩ 0 = true := by
  have hbytes : Subject.bytes ⟨"a", 98, ⟨.replicate 16 0⟩⟩ =
      Subject.bytes ⟨"ab", 0, ⟨.replicate 15 0⟩⟩ := by decide
  refine ⟨_, _, rfl, rfl, by decide, hbytes, ?_⟩
  obtain ⟨k, hk⟩ := (exists_make_iff [("a", "k"), ("ab", "k")]).mpr (by decide)
  refine ⟨k, hk, ?_⟩
  have hkey : ("ab", "k") ∈ [("a", "k"), ("ab", "k")] := by decide
  exact acceptsAt_of_bytes hk hkey rfl hbytes (by decide) (by decide) (by decide)

theorem signature_binding_moved : ∃ k, Keyring.make [("a", "k"), ("ab", "k")] = .ok k ∧
    Shifted ⟨"a", 98, ⟨.replicate 16 0⟩⟩ ⟨"ab", 0, ⟨.replicate 15 0⟩⟩ ∧
    k.acceptsAt ⟨"ab", 0, ⟨.replicate 15 0⟩, Token.sign "a" 98 ⟨.replicate 16 0⟩ "k".toUTF8⟩ 0 = true ∧
    Subject.bytes ⟨"a", 98, ⟨.replicate 16 0⟩⟩ ≠ Subject.bytes ⟨"ab", 0, ⟨.replicate 16 0⟩⟩ := by
  have hshift : Shifted ⟨"a", 98, ⟨.replicate 16 0⟩⟩ ⟨"ab", 0, ⟨.replicate 15 0⟩⟩ :=
    ⟨"b".toUTF8, by decide, by decide, by decide⟩
  obtain ⟨k, hk⟩ := (exists_make_iff [("a", "k"), ("ab", "k")]).mpr (by decide)
  obtain ⟨-, -, hsigned⟩ := signature_binding ⟨"a", 98, ⟨.replicate 16 0⟩⟩ ⟨"ab", 0, ⟨.replicate 15 0⟩⟩
  obtain ⟨-, hdiffer, -⟩ := signature_binding ⟨"a", 98, ⟨.replicate 16 0⟩⟩ ⟨"ab", 0, ⟨.replicate 16 0⟩⟩
  refine ⟨k, hk, hshift, ?_, hdiffer (by decide) (.inr rfl)⟩
  exact (hsigned _ k "k" _ 0 hk rfl rfl).2 (by decide) (.inr (.inl hshift)) (by decide) (by decide) (by decide)

end TwoHop.Proofs.Token.Binding
