import TwoHop.Proofs.Wire.Fields

/-! Bytes are made of whole fields in one way only. A reader tells these, and then that something is
left over, if anything is. -/

namespace TwoHop.Proofs.Wire.Splitting

open TwoHop.Field
open Fields
open Proofs.Bytes (extract_middle extract_append_within append_inj)

inductive Torn : ByteArray → DecodeFault → Prop
  | head {b : ByteArray} : 0 < b.size → b.size < headSize → Torn b .fieldHeader
  | value (tag : UInt8) {announced : Nat} {part : ByteArray} :
      part.size < announced → announced < UInt32.size →
      Torn ([tag].toByteArray ++ Bytes.bigEndian 4 announced ++ part)
        (.fieldTruncated tag part.size announced)

inductive Leaves : ByteArray → List (Except DecodeFault Field) → Prop
  | nothing : Leaves .empty []
  | torn {b : ByteArray} {e : DecodeFault} : Torn b e → Leaves b [.error e]

def answer (r : Reader) : Nat → Option (Except DecodeFault Field)
  | 0 => r.next.1
  | n + 1 => answer r.next.2 n

def Tells (r : Reader) (answers : List (Except DecodeFault Field)) : Prop :=
  ∀ n, answer r n = answers[n]?

variable {r s : Reader} {a : Except DecodeFault Field} {answers : List (Except DecodeFault Field)}
  {b d tail : ByteArray} {e : DecodeFault} {f g : Field} {fs gs : List Field}

lemma tells_nil (h : r.next = (none, r)) : Tells r [] := by
  intro n
  induction n with
  | zero => rw [answer, h, List.getElem?_nil]
  | succ n ih => rw [answer, h, ih, List.getElem?_nil, List.getElem?_nil]

lemma tells_cons (h : r.next = (some a, s)) (hs : Tells s answers) : Tells r (a :: answers) := by
  intro n
  cases n with
  | zero => rw [answer, h, List.getElem?_cons_zero]
  | succ n => rw [answer, h, List.getElem?_cons_succ, hs n]

lemma Tells.first (h : Tells r answers) : r.next.1 = answers.head? := by
  rw [List.head?_eq_getElem?, ← h 0, answer]

lemma Tells.rest (h : Tells r (a :: answers)) : Tells r.next.2 answers := by
  intro n
  rw [← List.getElem?_cons_succ (a := a), ← h (n + 1), answer]

lemma Torn.size_pos (h : Torn b e) : 0 < b.size := by
  cases h with
  | head hpos hshort => exact hpos
  | value tag hpart hannounced =>
    rw [ByteArray.size_append, ByteArray.size_append, Bytes.size_bigEndian]
    omega

lemma next?_torn (before : ByteArray) (h : Torn b e) :
    next? (before ++ b) before.size = .error e := by
  cases h with
  | head hpos hshort =>
    have hsize : (before ++ b).size = before.size + b.size := ByteArray.size_append
    rw [next?, if_neg (by omega), if_pos (by omega)]
  | @value tag announced part hpart hannounced =>
    have hsize : (before ++ ([tag].toByteArray ++ Bytes.bigEndian 4 announced ++ part)).size =
        before.size + headSize + part.size := by
      simp [ByteArray.size_append, headSize]
      omega
    have hpos : 0 < headSize := by decide
    obtain ⟨htag, hread⟩ := read_head before part tag hannounced
    rw [next?, if_neg (by omega), if_neg (by omega)]
    simp only [hread, htag]
    rw [dif_neg (by omega), hsize, Nat.add_sub_cancel_left]

lemma torn_of_next? (h : next? b 0 = .error e) : Torn b e := by
  simp only [next?] at h
  split at h
  · cases h
  · next hpos =>
    split at h
    · next hshort =>
      cases h
      apply Torn.head
      · omega
      · omega
    · next hhead =>
      split at h
      · cases h
      · next hlong =>
        cases h
        obtain ⟨hlt, hsplit⟩ := extract_head (Nat.not_lt.mp hhead)
        have hpart : (b.extract (0 + headSize) b.size).size = b.size - (0 + headSize) := by
          rw [ByteArray.size_extract, Nat.min_self]
        have hshort : (b.extract (0 + headSize) b.size).size <
            Bytes.toNat (b.extract (0 + 1) (0 + headSize)) := by omega
        have htorn := Torn.value (b.data[0]?.getD 0) hshort hlt
        rwa [← hsplit, ByteArray.extract_zero_size, hpart] at htorn

lemma exists_front (b : ByteArray) : b = .empty ∨ (∃ e, Torn b e) ∨
    ∃ f tail, Fits f ∧ b = f.encode ++ tail := by
  cases hnext : next? b 0 with
  | error e => exact Or.inr (Or.inl ⟨e, torn_of_next? hnext⟩)
  | ok place =>
    cases place with
    | none =>
      left
      apply ByteArray.size_eq_zero_iff.mp
      exact Nat.le_zero.mp (size_le_of_next? hnext)
    | some place =>
      obtain ⟨hfits, hfront⟩ := eq_of_next? hnext
      rw [ByteArray.extract_zero_size] at hfront
      exact Or.inr (Or.inr ⟨place.field, _, hfits, hfront⟩)

lemma next_end (b : ByteArray) : (⟨b, b.size⟩ : Reader).next = (none, ⟨b, b.size⟩) := by
  rw [Reader.next, next?_end (Nat.le_refl _)]

lemma next_torn (before : ByteArray) (h : Torn b e) : (⟨before ++ b, before.size⟩ : Reader).next =
    (some (.error e), ⟨before ++ b, (before ++ b).size⟩) := by
  rw [Reader.next, next?_torn before h]

lemma next_encode (before tail : ByteArray) (hf : Fits f) :
    (⟨before ++ (f.encode ++ tail), before.size⟩ : Reader).next =
      (some (.ok f), ⟨before ++ (f.encode ++ tail), (before ++ f.encode).size⟩) := by
  obtain ⟨place, hnext, hfield, hplace⟩ := next?_encode before tail hf
  rw [Reader.next, hnext]
  simp only [hfield, hplace]

lemma tells_leaves (before : ByteArray) (h : Leaves tail answers) :
    Tells ⟨before ++ tail, before.size⟩ answers := by
  cases h with
  | nothing =>
    rw [ByteArray.append_empty]
    exact tells_nil (next_end before)
  | torn h => exact tells_cons (next_torn before h) (tells_nil (next_end _))

lemma tells_encodeAll (before : ByteArray) (hfs : ∀ f ∈ fs, Fits f) (h : Leaves tail answers) :
    Tells ⟨before ++ (encodeAll fs ++ tail), before.size⟩ (fs.map .ok ++ answers) := by
  -- What has been read joins what is in front, so the induction is for any front.
  induction fs generalizing before with
  | nil =>
    rw [encodeAll_nil, ByteArray.empty_append]
    exact tells_leaves before h
  | cons f fs ih =>
    obtain ⟨hf, hfs⟩ := List.forall_mem_cons.mp hfs
    rw [encodeAll_cons, ByteArray.append_assoc]
    apply tells_cons (next_encode before (encodeAll fs ++ tail) hf)
    rw [← ByteArray.append_assoc]
    exact ih (before ++ f.encode) hfs

lemma tells_split (hfs : ∀ f ∈ fs, Fits f) (h : Leaves tail answers) :
    Tells ⟨encodeAll fs ++ tail, 0⟩ (fs.map .ok ++ answers) := by
  have htells := tells_encodeAll .empty hfs h
  rwa [ByteArray.empty_append] at htells

lemma exists_split (d : ByteArray) : ∃ fs tail answers, (∀ f ∈ fs, Fits f) ∧
    d = encodeAll fs ++ tail ∧ Leaves tail answers := by
  -- On the size of what is still to be split: a field at the front takes at least its head off.
  induction hsize : d.size using Nat.strongRecOn generalizing d with
  | _ n ih =>
    rcases exists_front d with rfl | ⟨e, he⟩ | ⟨f, tail, hf, rfl⟩
    · exact ⟨[], .empty, [], by simp, by simp, .nothing⟩
    · exact ⟨[], d, [.error e], by simp, by simp, .torn he⟩
    · have hless : tail.size < n := by
        rw [← hsize, ByteArray.size_append, size_encode, headSize]
        omega
      obtain ⟨fs, rest, answers, hfs, rfl, hrest⟩ := ih tail.size hless tail rfl
      refine ⟨f :: fs, rest, answers, List.forall_mem_cons.mpr ⟨hf, hfs⟩, ?_, hrest⟩
      rw [encodeAll_cons, ByteArray.append_assoc]

lemma front_unique {x y : ByteArray} (hf : Fits f) (hg : Fits g)
    (h : f.encode ++ x = g.encode ++ y) : f = g ∧ x = y := by
  have hsame : f = g := by
    have hread := next_encode .empty x hf
    rw [h, next_encode .empty y hg] at hread
    simpa using (congrArg Prod.fst hread).symm
  subst hsame
  exact ⟨rfl, (ByteArray.append_right_inj _).mp h⟩

lemma not_front_of_torn {x : ByteArray} (h : Torn b e) (hf : Fits f) : b ≠ f.encode ++ x := by
  rintro rfl
  have hread := next_torn .empty h
  rw [next_encode .empty x hf] at hread
  simpa using congrArg Prod.fst hread

lemma not_front_of_leaves {x : ByteArray} (h : Leaves b answers) (hf : Fits f) :
    b ≠ f.encode ++ x := by
  cases h with
  | torn h => exact not_front_of_torn h hf
  | nothing =>
    intro hempty
    have hsize := congrArg ByteArray.size hempty
    rw [ByteArray.size_append, size_encode, headSize, ByteArray.size_empty] at hsize
    omega

lemma prefix_of_split {more : ByteArray} (hfs : ∀ f ∈ fs, Fits f) (hgs : ∀ g ∈ gs, Fits g)
    (htail : Leaves tail answers) (h : encodeAll gs ++ more = encodeAll fs ++ tail) : gs <+: fs := by
  induction gs generalizing fs with
  | nil => exact List.nil_prefix
  | cons g gs ih =>
    obtain ⟨hg, hgs⟩ := List.forall_mem_cons.mp hgs
    rw [encodeAll_cons, ByteArray.append_assoc] at h
    cases fs with
    | nil =>
      rw [encodeAll_nil, ByteArray.empty_append] at h
      exact absurd h.symm (not_front_of_leaves htail hg)
    | cons f fs =>
      obtain ⟨hf, hlater⟩ := List.forall_mem_cons.mp hfs
      rw [encodeAll_cons, ByteArray.append_assoc] at h
      obtain ⟨rfl, hrest⟩ := front_unique hg hf h
      exact (List.prefix_cons_inj g).mpr (ih hlater hgs hrest)

lemma encodeAll_inj (hfs : ∀ f ∈ fs, Fits f) (hgs : ∀ g ∈ gs, Fits g)
    (h : encodeAll gs = encodeAll fs) : gs = fs := by
  have hempty : encodeAll gs ++ .empty = encodeAll fs ++ .empty := by rw [h]
  have hback := prefix_of_split hfs hgs .nothing hempty
  have hforth := prefix_of_split hgs hfs .nothing hempty.symm
  exact hback.eq_of_length_le hforth.length_le

lemma headSize_mul_length_le (fs : List Field) : headSize * fs.length ≤ (encodeAll fs).size := by
  induction fs with
  | nil => exact Nat.le_refl _
  | cons f fs ih =>
    rw [size_encodeAll_cons, List.length_cons, Nat.mul_succ]
    omega

lemma length_le_of_leaves (h : Leaves tail answers) : answers.length ≤ 1 := by
  cases h <;> simp

lemma answer_eq_none (hd : d = encodeAll fs ++ tail) (hfs : ∀ f ∈ fs, Fits f)
    (htail : Leaves tail answers) {n : Nat} (hn : d.size / 5 + 1 ≤ n) : answer ⟨d, 0⟩ n = none := by
  have hroom := headSize_mul_length_le fs
  have hlast := length_le_of_leaves htail
  have hsize : d.size = (encodeAll fs).size + tail.size := by rw [hd, ByteArray.size_append]
  rw [hd, tells_split hfs htail n]
  apply List.getElem?_eq_none
  rw [List.length_append, List.length_map]
  simp only [headSize] at hroom
  omega

lemma lt_of_leaves (hgs : ∀ f ∈ gs, Fits f) (hg : Fits g) (htail : Leaves tail answers) {n : Nat}
    (hcut : (encodeAll (gs ++ g :: fs)).extract 0 n = encodeAll gs ++ tail) :
    n < (encodeAll (gs ++ [g])).size := by
  have hwhole : encodeAll (gs ++ g :: fs) = encodeAll (gs ++ [g]) ++ encodeAll fs := by
    rw [← encodeAll_append, List.append_assoc, List.singleton_append]
  by_contra hlong
  -- One field more than the reader found would be there.
  have hfront : encodeAll (gs ++ [g]) ++
      (encodeAll (gs ++ g :: fs)).extract (encodeAll (gs ++ [g])).size n = encodeAll gs ++ tail := by
    rw [← hcut, ByteArray.extract_eq_extract_append_extract (encodeAll (gs ++ [g])).size
      (Nat.zero_le _) (Nat.not_lt.mp hlong), hwhole, ByteArray.extract_append_eq_left rfl]
  have hmore : ∀ f ∈ gs ++ [g], Fits f :=
    List.forall_mem_append.mpr ⟨hgs, List.forall_mem_singleton.mpr hg⟩
  have hlength := (prefix_of_split hgs hmore htail hfront).length_le
  rw [List.length_append, List.length_singleton] at hlength
  omega

lemma exists_cut (hfs : ∀ f ∈ fs, Fits f) {n : Nat} (hn : n ≤ (encodeAll fs).size) :
    ∃ k tail answers, (encodeAll fs).extract 0 n = encodeAll (fs.take k) ++ tail ∧
      Leaves tail answers ∧ n = (encodeAll (fs.take k)).size + tail.size ∧
      (0 < tail.size → k < fs.length ∧ n < (encodeAll (fs.take (k + 1))).size) := by
  obtain ⟨gs, tail, answers, hgs, hcut, htail⟩ := exists_split ((encodeAll fs).extract 0 n)
  have hsize : n = (encodeAll gs).size + tail.size := by
    rw [← ByteArray.size_append, ← hcut, ByteArray.size_extract]
    omega
  obtain ⟨later, rfl⟩ : gs <+: fs := by
    have hrejoin := Bytes.extract_append_rejoin hn
    rw [hcut, ByteArray.append_assoc] at hrejoin
    exact prefix_of_split hfs hgs .nothing (hrejoin.trans ByteArray.append_empty.symm)
  refine ⟨gs.length, tail, answers, ?_, htail, ?_, ?_⟩
  · rwa [List.take_left]
  · rwa [List.take_left]
  · intro hpos
    cases later with
    | nil =>
      rw [List.append_nil] at hn
      omega
    | cons g later =>
      have htake : (gs ++ g :: later).take (gs.length + 1) = gs ++ [g] := by
        rw [List.take_length_add_append, List.take_succ_cons, List.take_zero]
      rw [htake]
      exact ⟨by simp, lt_of_leaves hgs (hfs g (by simp)) htail hcut⟩

variable {σ : Type} {take : σ → Field → Except DecodeFault σ}

lemma foldFrom_of_tells {i : Nat} (h : Tells ⟨b, i⟩ answers) (s : σ) :
    foldFrom take b i s = answers.foldlM (fun s a => a >>= take s) s := by
  induction answers generalizing i s with
  | nil =>
    have hfirst := h.first
    rw [Reader.next] at hfirst
    rw [foldFrom]
    split at hfirst
    · cases hfirst
    · next hnext =>
      simp only [hnext]
      rfl
    · cases hfirst
  | cons a answers ih =>
    have hfirst := h.first
    have hrest := h.rest
    rw [Reader.next] at hfirst hrest
    rw [foldFrom, List.foldlM_cons]
    split at hfirst
    · next hnext =>
      cases hfirst
      simp only [hnext]
      rfl
    · cases hfirst
    · next place hnext =>
      cases hfirst
      simp only [hnext] at hrest ⊢
      cases htake : take s place.field with
      | error e => simp [bind, Except.bind, htake]
      | ok t =>
        have hlater := ih hrest t
        simpa [bind, Except.bind, htake] using hlater

theorem unique_reading :
    (∀ fs : List Field, (∀ f ∈ fs, f.value.size < UInt32.size) →
      Tells ⟨encodeAll fs, 0⟩ (fs.map .ok) ∧
      (∀ gs : List Field, (∀ g ∈ gs, g.value.size < UInt32.size) →
        encodeAll gs = encodeAll fs → gs = fs) ∧
      (∀ k, Tells ⟨(encodeAll fs).extract 0 (encodeAll (fs.take k)).size, 0⟩ ((fs.take k).map .ok)) ∧
      ∀ n, n ≤ (encodeAll fs).size → (∀ k, n ≠ (encodeAll (fs.take k)).size) →
        ∃ k e, k < fs.length ∧ (encodeAll (fs.take k)).size < n ∧
          n < (encodeAll (fs.take (k + 1))).size ∧
          Tells ⟨(encodeAll fs).extract 0 n, 0⟩ ((fs.take k).map .ok ++ [.error e])) ∧
    ∀ d : ByteArray,
      (∃ fs tail, (∀ f ∈ fs, f.value.size < UInt32.size) ∧ d = encodeAll fs ++ tail ∧
        (∀ gs more, (∀ g ∈ gs, g.value.size < UInt32.size) →
          d = encodeAll gs ++ more → gs <+: fs) ∧
        (tail = .empty ∧ Tells ⟨d, 0⟩ (fs.map .ok) ∨
          tail ≠ .empty ∧ ∃ e, Torn tail e ∧ Tells ⟨d, 0⟩ (fs.map .ok ++ [.error e]))) ∧
      (∀ n, d.size / 5 + 1 ≤ n → answer ⟨d, 0⟩ n = none) ∧
      ∀ answers, Tells ⟨d, 0⟩ answers →
        ∀ (σ : Type) (take : σ → Field → Except DecodeFault σ) (s : σ),
          fold take d s = answers.foldlM (fun s a => a >>= take s) s := by
  refine ⟨?_, ?_⟩
  · intro fs hfs
    have htells {gs : List Field} (hgs : ∀ g ∈ gs, Fits g) :
        Tells ⟨encodeAll gs, 0⟩ (gs.map .ok) := by
      simpa using tells_split hgs .nothing
    refine ⟨htells hfs, fun gs hgs => encodeAll_inj hfs hgs, ?_, ?_⟩
    · intro k
      have hwhole : encodeAll fs = encodeAll (fs.take k) ++ encodeAll (fs.drop k) := by
        rw [← encodeAll_append, List.take_append_drop]
      rw [hwhole, ByteArray.extract_append_eq_left rfl]
      exact htells fun f hf => hfs f (List.mem_of_mem_take hf)
    · intro n hn hbetween
      obtain ⟨k, tail, answers, hcut, htail, hsize, hnext⟩ := exists_cut hfs hn
      have htells := tells_split (fun f hf => hfs f (List.mem_of_mem_take (i := k) hf)) htail
      cases htail with
      | nothing => exact absurd hsize (hbetween k)
      | @torn b e htorn =>
        have hpos := htorn.size_pos
        obtain ⟨hk, hless⟩ := hnext hpos
        refine ⟨k, e, hk, by omega, hless, ?_⟩
        rw [hcut]
        exact htells
  · intro d
    obtain ⟨fs, tail, answers, hfs, hd, htail⟩ := exists_split d
    refine ⟨⟨fs, tail, hfs, hd, ?_, ?_⟩, fun n => answer_eq_none hd hfs htail, ?_⟩
    · intro gs more hgs hother
      exact prefix_of_split hfs hgs htail (hother.symm.trans hd)
    · have htells := tells_split hfs htail
      rw [← hd] at htells
      cases htail with
      | nothing => exact Or.inl ⟨rfl, by simpa using htells⟩
      | torn htorn =>
        refine Or.inr ⟨?_, _, htorn, htells⟩
        rintro rfl
        exact absurd htorn.size_pos (Nat.lt_irrefl 0)
    · intro answers htells σ take s
      exact foldFrom_of_tells htells s

theorem unique_reading_cut :
    let fs : List Field := [⟨1, "hi".toUTF8⟩, ⟨2, .empty⟩, ⟨200, [1, 2, 3].toByteArray⟩]
    (∀ f ∈ fs, f.value.size < UInt32.size) ∧ Tells ⟨encodeAll fs, 0⟩ (fs.map .ok) ∧
      ∃ e, Tells ⟨(encodeAll fs).extract 0 19, 0⟩
        ([⟨1, "hi".toUTF8⟩, ⟨2, .empty⟩].map .ok ++ [.error e]) := by
  intro fs
  have hfs : ∀ f ∈ fs, f.value.size < UInt32.size := by decide
  obtain ⟨hwhole, -, -, hcut⟩ := unique_reading.1 fs hfs
  refine ⟨hfs, hwhole, ?_⟩
  have hsizes : ∀ k, (encodeAll (fs.take k)).size = [0, 7, 12][k]?.getD 20 := by
    intro k
    match k with
    | 0 | 1 | 2 => rfl
    | k + 3 =>
      rw [List.take_of_length_le (by simp [fs])]
      rfl
  obtain ⟨k, e, hk, hbehind, hbefore, htells⟩ := hcut 19 (by decide) (by
    intro k
    rw [hsizes]
    match k with
    | 0 | 1 | 2 => decide
    | k + 3 => simp)
  rw [hsizes] at hbehind hbefore
  match k with
  | 0 | 1 => simp at hbefore
  | 2 => exact ⟨e, htells⟩
  | k + 3 => simp at hbehind

end TwoHop.Proofs.Wire.Splitting
