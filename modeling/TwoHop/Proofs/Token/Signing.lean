import TwoHop.Proofs.Bytes
import TwoHop.Token

namespace TwoHop.Proofs.Token.Signing

open TwoHop.Digest

lemma size_foldl_words (words : List UInt32) (b : ByteArray) :
    (words.foldl (fun b w => b ++ Bytes.bigEndian 4 w.toNat) b).size = b.size + 4 * words.length := by
  induction words generalizing b with
  | nil => rfl
  | cons w words ih =>
    rw [List.foldl_cons, ih, ByteArray.size_append, Bytes.size_bigEndian, List.length_cons]
    omega

lemma size_hmac (key message : ByteArray) : (hmac key message).size = 32 := by
  rw [hmac, sha256, State.toBytes, size_foldl_words]
  rfl

lemma beq_bytes (b : ByteArray) : (b == b) = true := by
  obtain ⟨data⟩ := b
  exact beq_self_eq_true data

lemma not_isEmpty_of_size_pos {b : ByteArray} (h : 0 < b.size) : b.isEmpty = false := by
  simp only [ByteArray.isEmpty, beq_eq_false_iff_ne]
  omega

lemma acceptsAt_sign {k : Keyring} {s : Secret} (hs : s ∈ k.secrets) {now signed : Int64}
    {nonce : ByteArray} (hnonce : 0 < nonce.size) (hskew : Token.skew now signed ≤ Token.maxSkew) :
    k.acceptsAt (s.sign signed nonce) now = true := by
  have hsignature : 0 < (s.sign signed nonce).signature.size := by
    rw [show (s.sign signed nonce).signature = hmac _ _ from rfl, size_hmac]
    decide
  have hsecret : k.secrets.any (fun c => c.id == (s.sign signed nonce).secretId &&
      (s.sign signed nonce).signatureBy c.key == (s.sign signed nonce).signature) = true := by
    apply List.any_eq_true.mpr
    refine ⟨s, hs, ?_⟩
    simp [Secret.sign, Token.signatureBy, beq_bytes]
  simp only [Keyring.acceptsAt, Bool.and_eq_true]
  refine ⟨⟨⟨⟨?_, ?_⟩, ?_⟩, ?_⟩, hsecret⟩
  · simpa [Secret.sign] using s.id_ne
  · simp [Secret.sign, not_isEmpty_of_size_pos hnonce]
  · simp [not_isEmpty_of_size_pos hsignature]
  · simpa [Secret.sign] using hskew

end TwoHop.Proofs.Token.Signing
