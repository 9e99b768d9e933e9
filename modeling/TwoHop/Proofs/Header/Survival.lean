import TwoHop.Proofs.Header.Insertion

/-! A header map that is sent as a message arrives with the same values under the same names, but for
the values that are not text. -/

namespace TwoHop.Proofs.Header.Survival

open TwoHop.Header
open Text.Letters Maps Values Insertion
open Wire.Fields Wire.HeaderFields Wire.RoundTrip

structure Same (m n : Map) : Prop where
  length : m.toList.length = n.toList.length
  values : ∀ name, m.values name = n.values name

def Travels (m n : Map) : Prop :=
  ∃ h, Headers.decode (Headers.ofMap m).encode = .ok h ∧ h.toMap = .ok n

section

variable {α : Type}

lemma count_named [BEq α] [LawfulBEq α] (pairs : List (String × α)) (name : String) (v : α) :
    pairs.count (name, v) = (named pairs name).count v := by
  induction pairs with
  | nil => rfl
  | cons p pairs ih =>
    obtain ⟨n, w⟩ := p
    rw [named_cons, List.count_append, List.count_cons, ih, Nat.add_comm]
    congr 1
    by_cases hn : n = name
    · subst hn
      by_cases hw : w = v
      · simp [hw]
      · simp [hw]
    · simp [hn, Ne.symm hn]

lemma perm_of_named [DecidableEq α] {ps qs : List (String × α)}
    (h : ∀ name, named ps name = named qs name) : ps.Perm qs := by
  rw [List.perm_iff_count]
  rintro ⟨name, v⟩
  rw [count_named, count_named, h]

lemma named_filter (keeps : α → Bool) (pairs : List (String × α)) (name : String) :
    named (pairs.filter (keeps ·.2)) name = (named pairs name).filter keeps := by
  rw [named, named, List.filter_map, List.filter_filter, List.filter_filter]
  simp only [Bool.and_comm, Function.comp_apply]

end

lemma same_of_values {m n : Map} (hm : Proper m) (hn : Proper n)
    (hvalues : ∀ name, m.values name = n.values name) : Same m n := by
  refine ⟨List.Perm.length_eq (perm_of_named ?_), hvalues⟩
  intro name
  rw [named_toList hm.distinct, named_toList hn.distinct, hvalues]

lemma mem_of_mem_spare {name : String} {values : List ByteArray} {v : ByteArray}
    (hv : v ∈ spare name values) : v ∈ values := by
  rw [spare] at hv
  split at hv
  · exact List.mem_of_mem_tail hv
  · exact hv

lemma short_lower_iff (values : String → List ByteArray)
    (hlower : ∀ name, ∀ v ∈ values name, Text.lower name = name) :
    (Short fun name => values (Text.lower name)) ↔ Short values := by
  constructor
  · intro h
    constructor
    case value =>
      intro name v hv
      exact h.value name v (by rwa [hlower name v hv])
    case pair =>
      intro name v hv
      exact h.pair name v (by rwa [hlower name v (mem_of_mem_spare hv)])
  · intro h
    constructor
    case value => exact fun name => h.value (Text.lower name)
    case pair =>
      intro name v hv
      rw [← size_lower name]
      apply h.pair (Text.lower name)
      rwa [spare, lower_lower]

lemma fits_ofMap_iff {m : Map} (hm : Proper m) : (∀ f ∈ (Headers.ofMap m).fields, Fits f) ↔
    Short fun name => (m.values name).filter isText := by
  obtain ⟨hseated, hvalues⟩ := seated_ofMap hm
  rw [fits_iff_short hseated (lowered_ofMap m)]
  simp only [hvalues, map_toUTF8_filterMap]
  apply short_lower_iff fun name => (m.values name).filter isText
  intro name v hv
  exact (mem_values hm (List.mem_of_mem_filter hv)).2.1

lemma travels_once {m : Map} (hm : Proper m) (hfew : m.toList.length ≤ Headers.maxMapPairs)
    (hshort : Short fun name => (m.values name).filter isText) : ∃ n, Travels m n ∧ Proper n ∧
      (∀ name, n.values name = (m.values name).filter isText) ∧
      ∀ name, n.contains name = true ↔ n.values name ≠ [] := by
  have hdecode : Headers.decode (Headers.ofMap m).encode = .ok (Headers.ofMap m) := by
    rw [decode_headers _ ((fits_ofMap_iff hm).mpr hshort), lowerNames_of_lowered (lowered_ofMap m)]
  obtain ⟨n, hn, hproper, hvalues⟩ :=
    toMap_of_mapped (mapped_ofMap hm) (Nat.le_trans (size_ofMap_le m) hfew)
  refine ⟨n, ⟨_, hdecode, hn⟩, hproper, ?_, contains_toMap hn⟩
  intro name
  rw [hvalues, (seated_ofMap hm).2, map_toUTF8_filterMap]

variable {m n : Map}

lemma length_of_text (hm : Proper m) (hn : Proper n)
    (hvalues : ∀ name, n.values name = (m.values name).filter isText) :
    n.toList.length ≤ m.toList.length := by
  have hperm : n.toList.Perm (m.toList.filter (isText ·.2)) := by
    apply perm_of_named
    intro name
    rw [named_filter, named_toList hm.distinct, named_toList hn.distinct, hvalues]
  rw [hperm.length_eq]
  exact List.length_filter_le ..

theorem map_survives (hm : Proper m) (hfew : m.toList.length ≤ 24576)
    (hshort : Short fun name => (m.values name).filter isText) : ∃ n, Travels m n ∧
      (∀ name, n.values name = (m.values name).filter isText) ∧
      (∀ name, n.contains name = true ↔ (m.values name).filter isText ≠ []) ∧
      ((∀ name, ∀ v ∈ m.values name, isText v = true) → Same n m) ∧
      ∃ again, Travels n again ∧ Same again n := by
  obtain ⟨n, htravels, hn, hvalues, hcontains⟩ := travels_once hm hfew hshort
  refine ⟨n, htravels, hvalues, ?_, ?_, ?_⟩
  · intro name
    rw [hcontains, hvalues]
  · intro htext
    apply same_of_values hn hm
    intro name
    rw [hvalues, List.filter_eq_self.mpr (htext name)]
  · have hkept (name : String) : (n.values name).filter isText = n.values name := by
      rw [hvalues, List.filter_filter]
      simp only [Bool.and_self]
    have hshort' : Short fun name => (n.values name).filter isText := by
      simp only [hkept]
      simpa only [hvalues] using hshort
    obtain ⟨again, htravels', hagain, hvalues', -⟩ :=
      travels_once hn (Nat.le_trans (length_of_text hm hn hvalues) hfew) hshort'
    refine ⟨again, htravels', same_of_values hagain hn ?_⟩
    intro name
    rw [hvalues', hkept]

def mixed : Map := ⟨#[⟨"set-cookie", #["a=1".toUTF8, ⟨#[0xFF]⟩, "b=2".toUTF8]⟩,
  ⟨"x-id", #["7".toUTF8, "8".toUTF8]⟩, ⟨"x-raw", #[⟨#[0xC3]⟩]⟩]⟩

lemma proper_mixed : Proper mixed where
  distinct := by simp [Distinct, mixed]
  names := by decide +kernel
  values := by decide +kernel

theorem map_survives_mixed : ∃ n, Travels mixed n ∧
    n.values "set-cookie" = ["a=1".toUTF8, "b=2".toUTF8] ∧
    n.values "x-id" = ["7".toUTF8, "8".toUTF8] ∧ n.contains "x-raw" = false ∧
    ∃ again, Travels n again ∧ Same again n := by
  have hsize : (Field.encodeAll (Headers.ofMap mixed).fields).size < UInt32.size := by decide +kernel
  obtain ⟨n, htravels, hvalues, hcontains, -, hagain⟩ :=
    map_survives proper_mixed (by decide) ((fits_ofMap_iff proper_mixed).mp (fits_of_size hsize))
  refine ⟨n, htravels, ?_, ?_, ?_, hagain⟩
  · rw [hvalues]
    decide
  · rw [hvalues]
    decide
  · rw [Bool.eq_false_iff, Ne, hcontains]
    decide

end TwoHop.Proofs.Header.Survival
