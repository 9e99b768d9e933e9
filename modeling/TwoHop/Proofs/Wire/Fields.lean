import TwoHop.Field
import TwoHop.Proofs.Bytes

namespace TwoHop.Proofs.Wire.Fields

open TwoHop.Field
open Proofs.Bytes (join foldl_append_eq_join extract_middle)

variable {σ : Type} {take : σ → Field → Except DecodeFault σ}

def Fits (f : Field) : Prop := f.value.size < UInt32.size

def Cut (b : ByteArray) (fs : List Field) : Prop := (∀ f ∈ fs, Fits f) ∧ b = encodeAll fs

lemma encodeAll_eq_join (fs : List Field) : encodeAll fs = join (fs.map encode) := by
  have h : encodeAll fs = (fs.map encode).foldl (· ++ ·) .empty := by
    rw [encodeAll, List.foldl_map]
  rw [h, foldl_append_eq_join, ByteArray.empty_append]

@[simp] lemma encodeAll_nil : encodeAll [] = .empty := rfl

lemma encodeAll_cons (f : Field) (fs : List Field) : encodeAll (f :: fs) = f.encode ++ encodeAll fs := by
  rw [encodeAll_eq_join, encodeAll_eq_join]
  rfl

lemma encodeAll_append (fs gs : List Field) : encodeAll (fs ++ gs) = encodeAll fs ++ encodeAll gs := by
  simp only [encodeAll_eq_join, List.map_append, Bytes.join_append]

lemma size_encode (f : Field) : f.encode.size = headSize + f.value.size := by
  simp only [Field.encode, ByteArray.size_append, ByteArray.size_push, ByteArray.size_empty,
    Bytes.size_bigEndian, headSize]

lemma size_encodeAll_cons (f : Field) (fs : List Field) :
    (encodeAll (f :: fs)).size = headSize + f.value.size + (encodeAll fs).size := by
  rw [encodeAll_cons, ByteArray.size_append, size_encode]

lemma size_le_of_mem {f : Field} {fs : List Field} (h : f ∈ fs) :
    f.value.size ≤ (encodeAll fs).size := by
  induction fs with
  | nil => cases h
  | cons g fs ih =>
    rw [size_encodeAll_cons]
    rcases List.mem_cons.mp h with rfl | h
    · omega
    · have := ih h
      omega

lemma fits_of_size {fs : List Field} (h : (encodeAll fs).size < UInt32.size) : ∀ f ∈ fs, Fits f :=
  fun _ hf => Nat.lt_of_le_of_lt (size_le_of_mem hf) h

lemma encode_head (f : Field) :
    f.encode = [f.tag].toByteArray ++ Bytes.bigEndian 4 f.value.size ++ f.value := rfl

lemma next?_end {b : ByteArray} {i : Nat} (h : b.size ≤ i) : next? b i = .ok none := by
  rw [next?, if_pos h]

lemma size_le_of_next? {b : ByteArray} {i : Nat} (h : next? b i = .ok none) : b.size ≤ i := by
  by_contra hlt
  rw [next?, if_neg hlt] at h
  split at h
  · cases h
  · dsimp only at h
    split at h <;> cases h

lemma read_head (before after : ByteArray) (tag : UInt8) {n : Nat} (hn : n < UInt32.size) :
    let b := before ++ ([tag].toByteArray ++ Bytes.bigEndian 4 n ++ after)
    b.data[before.size]?.getD 0 = tag ∧
      Bytes.toNat (b.extract (before.size + 1) (before.size + headSize)) = n := by
  intro b
  have hlength : b = before ++ [tag].toByteArray ++ (Bytes.bigEndian 4 n ++ after) := by
    simp only [b, ByteArray.append_assoc]
  refine ⟨?_, ?_⟩
  · simp [b, ByteArray.data_append, Array.getElem?_append, ← ByteArray.size_data]
  · rw [hlength, extract_middle _ _ _ (by simp) (by simp [headSize])]
    exact Bytes.toNat_bigEndian_of_lt hn

lemma next?_encode (before after : ByteArray) {f : Field} (hf : Fits f) :
    ∃ s, next? (before ++ (f.encode ++ after)) before.size = .ok (some s) ∧ s.field = f ∧
      s.next = (before ++ f.encode).size := by
  have hsize : (before ++ (f.encode ++ after)).size =
      before.size + headSize + f.value.size + after.size := by
    simp only [ByteArray.size_append, size_encode]
    omega
  have hpos : 0 < headSize := by decide
  have hencode : f.encode ++ after =
      [f.tag].toByteArray ++ Bytes.bigEndian 4 f.value.size ++ (f.value ++ after) := by
    rw [encode_head, ByteArray.append_assoc]
  have hvalue : before ++ (f.encode ++ after) = before ++ [f.tag].toByteArray ++
      Bytes.bigEndian 4 f.value.size ++ (f.value ++ after) := by
    rw [hencode]
    simp only [ByteArray.append_assoc]
  obtain ⟨htag, hannounced⟩ := read_head before (f.value ++ after) f.tag hf
  rw [← hencode] at htag hannounced
  rw [next?, if_neg (by omega), if_neg (by omega)]
  simp only [hannounced, htag]
  rw [dif_pos (by omega)]
  refine ⟨_, rfl, ?_, ?_⟩
  · have hread : (before ++ (f.encode ++ after)).extract (before.size + headSize)
        (before.size + headSize + f.value.size) = f.value := by
      rw [hvalue, extract_middle _ _ _ (by simp [headSize]) (by simp [headSize])]
    rw [hread]
  · simp only [ByteArray.size_append, size_encode, Nat.add_assoc]

lemma extract_head {b : ByteArray} {i : Nat} (h : i + headSize ≤ b.size) :
    Bytes.toNat (b.extract (i + 1) (i + headSize)) < UInt32.size ∧
      b.extract i b.size = [b.data[i]?.getD 0].toByteArray ++
        Bytes.bigEndian 4 (Bytes.toNat (b.extract (i + 1) (i + headSize))) ++
          b.extract (i + headSize) b.size := by
  simp only [headSize] at h ⊢
  have hlength : (b.extract (i + 1) (i + 5)).size = 4 := by
    rw [ByteArray.size_extract]
    omega
  have htag : b.data[i]?.getD 0 = b[i] := by
    rw [ByteArray.getElem_eq_getElem_data, Array.getElem?_eq_getElem, Option.getD_some]
  refine ⟨?_, ?_⟩
  · have hlt := Bytes.toNat_lt (b.extract (i + 1) (i + 5))
    rwa [hlength] at hlt
  · rw [Bytes.bigEndian_toNat hlength, htag, ← ByteArray.extract_add_one (by omega),
      ← ByteArray.extract_eq_extract_append_extract (i + 1) (by omega) (by omega),
      ← ByteArray.extract_eq_extract_append_extract (i + 5) (by omega) (by omega)]

lemma eq_of_next? {b : ByteArray} {i : Nat} {s : Step b i} (h : next? b i = .ok (some s)) :
    Fits s.field ∧ b.extract i b.size = s.field.encode ++ b.extract s.next b.size := by
  simp only [next?] at h
  split at h
  · cases h
  · split at h
    · cases h
    · next hend hshort =>
      split at h
      · next hle =>
        simp only [Except.ok.injEq, Option.some.injEq] at h
        subst h
        obtain ⟨hlt, hhead⟩ := extract_head (Nat.not_lt.mp hshort)
        dsimp only
        generalize Bytes.toNat (b.extract (i + 1) (i + headSize)) = n at hlt hhead hle ⊢
        have hvalue : (b.extract (i + headSize) (i + headSize + n)).size = n := by
          rw [ByteArray.size_extract]
          omega
        refine ⟨?_, ?_⟩
        · rw [Fits, hvalue]
          exact hlt
        · rw [hhead, encode_head, hvalue, ByteArray.extract_eq_extract_append_extract
            (i + headSize + n) (Nat.le_add_right _ _) hle]
          exact ByteArray.append_assoc.symm
      · cases h

lemma foldFrom_encodeAll (before : ByteArray) {fs : List Field} (hfs : ∀ f ∈ fs, Fits f) (s : σ) :
    foldFrom take (before ++ encodeAll fs) before.size s = fs.foldlM take s := by
  induction fs generalizing before s with
  | nil =>
    rw [encodeAll_nil, ByteArray.append_empty, foldFrom, next?_end (Nat.le_refl _)]
    rfl
  | cons f fs ih =>
    obtain ⟨hf, hfs⟩ := List.forall_mem_cons.mp hfs
    obtain ⟨place, hnext, hfield, hplace⟩ := next?_encode before (encodeAll fs) hf
    rw [encodeAll_cons, foldFrom, hnext, List.foldlM_cons]
    dsimp only
    rw [hfield]
    cases take s f with
    | error e => rfl
    | ok t =>
      dsimp only
      rw [hplace, ← ByteArray.append_assoc, ih _ hfs]
      rfl

lemma fold_of_cut {b : ByteArray} {fs : List Field} (h : Cut b fs) (s : σ) :
    fold take b s = fs.foldlM take s := by
  obtain ⟨hfs, rfl⟩ := h
  have h : foldFrom take (.empty ++ encodeAll fs) 0 s = fs.foldlM take s :=
    foldFrom_encodeAll .empty hfs s
  rwa [ByteArray.empty_append] at h

lemma cut_of_foldFrom {b : ByteArray} {i : Nat} {s t : σ} (hi : i ≤ b.size)
    (h : foldFrom take b i s = .ok t) : ∃ fs, Cut (b.extract i b.size) fs := by
  induction i, s using foldFrom.induct take b with
  | case1 i s e hnext =>
    rw [foldFrom, hnext] at h
    cases h
  | case2 i s hnext =>
    refine ⟨[], by simp, ?_⟩
    rw [encodeAll_nil, ByteArray.extract_eq_empty_iff, Nat.min_self]
    exact size_le_of_next? hnext
  | case3 i s place hnext e htake =>
    rw [foldFrom, hnext] at h
    dsimp only at h
    rw [htake] at h
    cases h
  | case4 i s place hnext s' htake ih =>
    rw [foldFrom, hnext] at h
    dsimp only at h
    rw [htake] at h
    obtain ⟨fs, hfs, hrest⟩ := ih place.next_le h
    obtain ⟨hf, hb⟩ := eq_of_next? hnext
    refine ⟨place.field :: fs, List.forall_mem_cons.mpr ⟨hf, hfs⟩, ?_⟩
    rw [hb, hrest, encodeAll_cons]

lemma cut_of_fold {b : ByteArray} {s t : σ} (h : fold take b s = .ok t) : ∃ fs, Cut b fs := by
  simpa using cut_of_foldFrom (Nat.zero_le _) h

lemma fold_eq_ok_iff {b : ByteArray} {s t : σ} :
    fold take b s = .ok t ↔ ∃ fs, Cut b fs ∧ fs.foldlM take s = .ok t := by
  constructor
  · intro h
    obtain ⟨fs, hfs⟩ := cut_of_fold h
    exact ⟨fs, hfs, by rw [← fold_of_cut hfs, h]⟩
  · rintro ⟨fs, hfs, h⟩
    rw [fold_of_cut hfs, h]

end TwoHop.Proofs.Wire.Fields
