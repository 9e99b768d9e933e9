import TwoHop.Frame
import TwoHop.Proofs.Bytes

namespace TwoHop.Proofs.Scanner.Heading

open TwoHop.Frame Proofs.Bytes

def framed (body : ByteArray) : ByteArray := header body.size ++ body

lemma size_framed (body : ByteArray) : (framed body).size = headerSize + body.size := by
  rw [framed, ByteArray.size_append, size_header]

lemma encode_of_legal {body : ByteArray} (hl : Legal body.size) : Frame.encode body = .ok (framed body) :=
  Frame.encode_eq_ok_iff.mpr ⟨hl, rfl⟩

lemma encode_of_illegal {body : ByteArray} (hl : ¬ Legal body.size) :
    Frame.encode body = .error (.frameBody body.size) := if_neg hl

lemma toNat_magic : Bytes.toNat (Bytes.bigEndian 4 magic) = magic := by decide

lemma legal_lt {n : Nat} (h : Legal n) : n < Nat.pow 256 4 := by
  obtain ⟨_, h⟩ := h
  simp only [maxBody] at h
  have hp : Nat.pow 256 4 = 4294967296 := rfl
  omega

lemma header_extract_magic (n : Nat) : (header n).extract 0 4 = Bytes.bigEndian 4 magic := by
  rw [header, ByteArray.extract_append_eq_left (by simp)]

lemma header_extract_length (n : Nat) : (header n).extract 4 8 = Bytes.bigEndian 4 n := by
  rw [header, ByteArray.extract_append_eq_right (by simp) (by simp)]

lemma parseHeader_header {n : Nat} (h : Legal n) : parseHeader (header n) = .ok n := by
  rw [parseHeader, if_neg (by simp)]
  simp only [header_extract_magic, header_extract_length, toNat_magic,
    Bytes.toNat_bigEndian_of_lt (legal_lt h), ne_eq, not_true_eq_false, if_false, if_pos h]

lemma parseHeader_append {a : ByteArray} (b : ByteArray) (h : headerSize ≤ a.size) :
    parseHeader (a ++ b) = parseHeader a := by
  have hsize : ¬ (a ++ b).size < headerSize := by
    rw [ByteArray.size_append]
    omega
  have hmagic : 4 ≤ a.size := Nat.le_trans (by decide) h
  have hlength : 8 ≤ a.size := h
  rw [parseHeader, parseHeader, if_neg hsize, if_neg (Nat.not_lt.mpr h),
    extract_append_within b hmagic, extract_append_within b hlength]

lemma parseHeader_head (b : ByteArray) : parseHeader (b.extract 0 headerSize) = parseHeader b := by
  by_cases h : headerSize ≤ b.size
  · have hsize : headerSize ≤ (b.extract 0 headerSize).size := by
      rw [ByteArray.size_extract]
      omega
    rw [← parseHeader_append (b.extract headerSize b.size) hsize, extract_append_rejoin h]
  · rw [← ByteArray.extract_zero_max_size (a := b) (i := headerSize), Nat.max_eq_left (by omega),
      ByteArray.extract_extract]
    simp

lemma parseHeader_eq_ok_iff {b : ByteArray} {n : Nat} :
    parseHeader b = .ok n ↔ headerSize ≤ b.size ∧ Legal n ∧ b.extract 0 headerSize = header n := by
  constructor
  · intro h
    simp only [parseHeader] at h
    split at h
    · cases h
    · next hs =>
      split at h
      · cases h
      · next hm =>
        split at h
        · next hl =>
          obtain rfl := Except.ok.inj h
          have hs : headerSize ≤ b.size := Nat.not_lt.mp hs
          refine ⟨hs, hl, ?_⟩
          simp only [headerSize] at hs ⊢
          rw [ByteArray.extract_eq_extract_append_extract 4 (by omega) (by omega), header,
            Bytes.bigEndian_toNat (by rw [ByteArray.size_extract]; omega), ← not_not.mp hm,
            Bytes.bigEndian_toNat (by rw [ByteArray.size_extract]; omega)]
        · cases h
  · rintro ⟨hs, hl, he⟩
    rw [← parseHeader_head, he, parseHeader_header hl]

end TwoHop.Proofs.Scanner.Heading
