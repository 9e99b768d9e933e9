import Mathlib.Data.List.Perm.Subperm
import Mathlib.Algebra.Order.BigOperators.Group.List
import Mathlib.Algebra.Order.Ring.Nat
import TwoHop.Proofs.Token.Signing
import TwoHop.Proofs.Token.Verification
import TwoHop.Proofs.Wire.Reencoding

namespace TwoHop.Proofs.Wire.Overhead

open TwoHop.Field
open Fields Format Rules Decoders Envelopes RoundTrip

variable {fs gs : List Field} {tag : UInt8} {b : ByteArray}

lemma mem_of_last (h : last tag fs = some b) : ⟨tag, b⟩ ∈ fs := by
  obtain ⟨f, hf, rfl⟩ := Option.map_eq_some_iff.mp h
  have htag : f.tag = tag := by simpa using List.find?_some hf
  subst htag
  exact List.mem_reverse.mp (List.mem_of_find?_eq_some hf)

lemma size_encodeAll (fs : List Field) :
    (encodeAll fs).size = (fs.map fun f => headSize + f.value.size).sum := by
  induction fs with
  | nil => rfl
  | cons f fs ih => rw [size_encodeAll_cons, List.map_cons, List.sum_cons, ih]

lemma size_le_of_subset (hn : fs.Nodup) (h : fs ⊆ gs) : (encodeAll fs).size ≤ (encodeAll gs).size := by
  obtain ⟨hs, hperm, hsub⟩ := hn.subperm h
  rw [size_encodeAll, size_encodeAll, ← (hperm.map _).sum_eq]
  exact (hsub.map _).sum_le_sum fun _ _ => Nat.zero_le _

lemma size_token_ge {t : Token} (hd : Token.decode b = .ok t) (hid : t.secretId ≠ "")
    (hnonce : t.nonce.isEmpty = false) (hsignature : t.signature.isEmpty = false) :
    17 + t.signature.size ≤ b.size := by
  obtain ⟨fs, hcut, hreadId, -, hreadNonce, hreadSignature⟩ := reads_of_decode (k := .token) hd
  rcases tells_cases hreadId with ⟨-, hnone⟩ | ⟨id, hlastId, rfl⟩
  · exact absurd hnone hid
  rcases tells_cases hreadNonce with ⟨-, hnone⟩ | ⟨nonce, hlastNonce, rfl⟩
  · rw [hnone] at hnonce
    cases hnonce
  rcases tells_cases hreadSignature with ⟨-, hnone⟩ | ⟨signature, hlastSignature, rfl⟩
  · rw [hnone] at hsignature
    cases hsignature
  have hthere : [.ofText 1 t.secretId, ⟨3, t.nonce⟩, ⟨4, t.signature⟩] ⊆ fs := by
    simp only [List.cons_subset, List.nil_subset, and_true]
    exact ⟨mem_of_last hlastId, mem_of_last hlastNonce, mem_of_last hlastSignature⟩
  have hsize := size_le_of_subset (by simp [Field.ofText]) hthere
  have hidPos : 0 < t.secretId.toUTF8.size := by
    rw [String.toUTF8_eq_toByteArray, String.size_toByteArray]
    exact Nat.pos_of_ne_zero fun hz => hid (String.utf8ByteSize_eq_zero_iff.mp hz)
  have hnoncePos := Bytes.size_pos_of_not_isEmpty (b := t.nonce) (by simp [hnonce])
  rw [hcut.2]
  simp only [size_encodeAll_cons, encodeAll_nil, ByteArray.size_empty, Field.ofText, headSize] at hsize
  omega

lemma size_tunnelRequest_ge {r : TunnelRequest} {t : Token} (hd : TunnelRequest.decode b = .ok r)
    (ht : r.token = some t) :
    ∃ c, Token.decode c = .ok t ∧ 17 + r.host.utf8ByteSize + c.size ≤ b.size := by
  obtain ⟨fs, hcut, hhost, hport, -, htoken⟩ := reads_of_decode (k := .tunnelRequest) hd
  rw [ht] at htoken
  obtain ⟨c, hlast, hc⟩ := last_of_some htoken
  refine ⟨c, hc, ?_⟩
  have hthere : [.ofText 1 r.host, .ofNat 2 2 r.port.toNat, ⟨4, c⟩] ⊆ fs := by
    simp only [List.cons_subset, List.nil_subset, and_true]
    exact ⟨mem_of_last hhost, mem_of_last hport, mem_of_last hlast⟩
  have hsize := size_le_of_subset (by simp [Field.ofText, Field.ofNat]) hthere
  rw [hcut.2]
  simp only [size_encodeAll_cons, encodeAll_nil, ByteArray.size_empty, Field.ofText, Field.ofNat,
    Bytes.size_bigEndian, headSize, String.toUTF8_eq_toByteArray, String.size_toByteArray] at hsize
  omega

lemma size_signatureBy (t : Token) (key : String) : (t.signatureBy key).size = 32 := by
  rw [Token.signatureBy, Token.sign]
  exact Token.Signing.size_hmac _ _

lemma size_of_accepted {k : Keyring} {t : Token} {now : Int64} (h : k.acceptsAt t now = true)
    (hd : Token.decode b = .ok t) : 49 ≤ b.size := by
  simp only [Keyring.acceptsAt, Bool.and_eq_true, Bool.not_eq_true', decide_eq_true_eq,
    List.any_eq_true] at h
  obtain ⟨⟨⟨⟨hid, hnonce⟩, hsignature⟩, -⟩, s, -, -, hsigned⟩ := h
  have hsize := size_token_ge hd hid hnonce hsignature
  have hsame : t.signatureBy s.key = t.signature :=
    (Token.Verification.beq_bytes_iff _ _).mp hsigned
  rw [← hsame, size_signatureBy] at hsize
  exact hsize

end TwoHop.Proofs.Wire.Overhead
