import TwoHop.Envelope.Message
import TwoHop.Proofs.Wire.Fields

namespace TwoHop.Proofs.Wire.Values

open TwoHop.Field

lemma fromUTF8?_eq_some_iff {b : ByteArray} {s : String} :
    String.fromUTF8? b = some s ↔ b = s.toUTF8 := by
  rw [String.fromUTF8?, String.toUTF8_eq_toByteArray]
  constructor
  · intro h
    split at h
    · cases h
      rfl
    · cases h
  · rintro rfl
    rw [dif_pos s.isValidUTF8]
    rfl

lemma text_eq_ok_iff {f : Field} {s : String} : f.text = .ok s ↔ f.value = s.toUTF8 := by
  rw [← fromUTF8?_eq_some_iff, Field.text]
  cases String.fromUTF8? f.value <;> simp

lemma nat_eq_ok_iff {f : Field} {width n : Nat} :
    f.nat width = .ok n ↔ f.value.size = width ∧ Bytes.toNat f.value = n := by
  rw [Field.nat]
  split <;> simp_all

lemma bigEndian_toUInt16 {b : ByteArray} (h : b.size = 2) :
    Bytes.bigEndian 2 (Bytes.toNat b).toUInt16.toNat = b := by
  have hlt := Bytes.toNat_lt b
  rw [h] at hlt
  have hn : (Bytes.toNat b).toUInt16.toNat = Bytes.toNat b := Nat.mod_eq_of_lt hlt
  rw [hn, Bytes.bigEndian_toNat h]

lemma toNat_bigEndian_uint16 (n : UInt16) : (Bytes.toNat (Bytes.bigEndian 2 n.toNat)).toUInt16 = n := by
  rw [Bytes.toNat_bigEndian_of_lt n.toNat_lt]
  exact UInt16.ofNat_toNat

lemma bigEndian_toInt64 {b : ByteArray} (h : b.size = 8) :
    Bytes.bigEndian 8 (Bytes.toNat b).toUInt64.toInt64.toUInt64.toNat = b := by
  have hlt := Bytes.toNat_lt b
  rw [h] at hlt
  have hn : (Bytes.toNat b).toUInt64.toNat = Bytes.toNat b := Nat.mod_eq_of_lt hlt
  rw [UInt64.toUInt64_toInt64, hn, Bytes.bigEndian_toNat h]

lemma toNat_bigEndian_int64 (n : Int64) :
    (Bytes.toNat (Bytes.bigEndian 8 n.toUInt64.toNat)).toUInt64.toInt64 = n := by
  rw [Bytes.toNat_bigEndian_of_lt n.toUInt64.toNat_lt]
  have h : n.toUInt64.toNat.toUInt64 = n.toUInt64 := UInt64.ofNat_toNat
  rw [h, Int64.toInt64_toUInt64]

lemma ofText?_eq_some_iff {s : String} {m : Method} : Method.ofText? s = some m ↔ s = m.text := by
  obtain ⟨text, ht⟩ := m
  rw [Method.ofText?]
  split
  · simp
  · next hs =>
    simp only [reduceCtorEq, false_iff]
    rintro rfl
    exact hs ht

lemma readMethod_eq_ok_iff {f : Field} {m : Method} :
    Request.readMethod f = .ok m ↔ f.value = m.text.toUTF8 := by
  rw [← fromUTF8?_eq_some_iff]
  have h : (String.fromUTF8? f.value).bind Method.ofText? = some m ↔
      String.fromUTF8? f.value = some m.text := by
    simp only [Option.bind_eq_some_iff, ofText?_eq_some_iff, exists_eq_right]
  rw [← h, Request.readMethod]
  cases (String.fromUTF8? f.value).bind Method.ofText? <;> simp

lemma ofCode?_eq_some_iff {c : UInt8} {v : Version} : Version.ofCode? c = some v ↔ c = v.code := by
  constructor
  · intro h
    simp only [Version.ofCode?] at h
    split at h <;> cases h <;> rfl
  · rintro rfl
    exact Version.ofCode?_code v

lemma readVersion_eq_ok_iff {f : Field} {v : Version} :
    Request.readVersion f = .ok v ↔ f.value = Bytes.bigEndian 1 v.code.toNat := by
  constructor
  · intro h
    rw [Request.readVersion] at h
    cases hn : f.nat 1 with
    | error e => simp [hn, bind, Except.bind] at h
    | ok n =>
      obtain ⟨hsize, rfl⟩ := nat_eq_ok_iff.mp hn
      have hlt := Bytes.toNat_lt f.value
      rw [hsize] at hlt
      cases hv : Version.ofCode? (Bytes.toNat f.value).toUInt8 with
      | none => simp [hn, hv, bind, Except.bind, throw, throwThe, MonadExceptOf.throw] at h
      | some w =>
        have hw : w = v := by simpa [hn, hv, bind, Except.bind, pure, Except.pure] using h
        rw [← hw, ← ofCode?_eq_some_iff.mp hv]
        have he : (Bytes.toNat f.value).toUInt8.toNat = Bytes.toNat f.value := Nat.mod_eq_of_lt hlt
        rw [he, Bytes.bigEndian_toNat hsize]
  · intro h
    have hn : f.nat 1 = .ok v.code.toNat := by
      rw [nat_eq_ok_iff, h, Bytes.size_bigEndian, Bytes.toNat_bigEndian_of_lt v.code.toNat_lt]
      exact ⟨rfl, rfl⟩
    have hc : v.code.toNat.toUInt8 = v.code := UInt8.ofNat_toNat
    rw [Request.readVersion, hn]
    simp [bind, Except.bind, hc, Version.ofCode?_code, pure, Except.pure]

end TwoHop.Proofs.Wire.Values
