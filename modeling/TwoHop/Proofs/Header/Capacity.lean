import TwoHop.Proofs.Header.Lengths
import TwoHop.Proofs.Wire.Overhead

/-! How many headers a message brings, and what becomes of them on the way into a map: up to a limit
a map takes what it can of them, and beyond the limit there is none. -/

namespace TwoHop.Proofs.Header.Capacity

open TwoHop.Field TwoHop.Header
open Maps Values Lengths
open Wire.Fields Wire.Format Wire.Rules Wire.Decoders Wire.HeaderFields Wire.Envelopes Wire.Overhead

def nameIn? (f : Field) : Option String :=
  if f.tag = undeclaredTag then
    match Kind.pair.decode f.value with
    | .ok (name, _) => name.map Text.lower
    | .error _ => none
  else (slotOfTag? f.tag).map Slot.name

def passing (fs : List Field) : Nat := fs.countP fun f => (nameIn? f).any (· ∉ hopByHop)

lemma size_removeHopByHop (h : Headers) :
    h.removeHopByHop.size = h.pairs.countP (·.1 ∉ hopByHop) := by
  rw [← length_pairs, pairs_removeHopByHop, List.countP_eq_length_filter]

lemma size_insert_kept (h : Headers) (n v : String) : (h.insert n v).removeHopByHop.size =
    h.removeHopByHop.size + if Text.lower n ∉ hopByHop then 1 else 0 := by
  rw [size_removeHopByHop, size_removeHopByHop, (pairs_insert_perm h n v).countP_eq, List.countP_cons]
  simp only [decide_eq_true_eq]

lemma size_pushOther_kept (h : Headers) (n v : String) : (h.pushOther n v).removeHopByHop.size =
    h.removeHopByHop.size + if n ∉ hopByHop then 1 else 0 := by
  rw [size_removeHopByHop, size_removeHopByHop, Headers.pairs, others_pushOther, ← List.append_assoc,
    List.countP_append, List.countP_singleton]
  simp only [decide_eq_true_eq]
  rfl

lemma nameIn?_slot (s : Slot) (value : String) : nameIn? (.ofText s.tag value) = some s.name := by
  rw [nameIn?, Field.ofText, if_neg (tag_ne_undeclaredTag s), slotOfTag?_tag]
  rfl

lemma nameIn?_pair {b : ByteArray} {name : Option String} {value : String}
    (h : IsMessage .pair b (name, value)) : nameIn? ⟨undeclaredTag, b⟩ = name.map Text.lower := by
  rw [nameIn?, if_pos rfl, show Kind.pair.decode b = .ok (name, value) from h]

lemma nameIn?_unknown {f : Field} (h : Unknown .headers f.tag) : nameIn? f = none := by
  have hpair : f.tag ≠ undeclaredTag := by
    refine Ne.symm (h ⟨undeclaredTag, .message .pair, false⟩ ?_)
    exact List.mem_append_right _ (List.mem_singleton_self _)
  have hslot : slotOfTag? f.tag = none := by
    rw [Option.eq_none_iff_forall_ne_some]
    intro s hs
    exact ne_tag_of_unknown h s (slotOfTag?_eq_some_iff.mp hs).symm
  rw [nameIn?, if_neg hpair, hslot, Option.map_none]

lemma size_takeField {h t : Headers} {f : Field} (ht : Headers.takeField h f = .ok t) :
    t.removeHopByHop.size = h.removeHopByHop.size + passing [f] := by
  rw [passing, List.countP_singleton]
  rcases takeField_cases ht with ⟨s, value, rfl, rfl⟩ | ⟨b, name, value, rfl, hb, rfl⟩ |
    ⟨b, value, rfl, hb, rfl⟩ | ⟨hu, rfl⟩
  · rw [size_insert_kept, nameIn?_slot, lower_name]
    simp
  · rw [size_pushOther_kept, nameIn?_pair hb]
    simp
  · rw [nameIn?_pair hb, Option.map_none, Option.any_none, if_neg Bool.false_ne_true, Nat.add_zero]
  · rw [nameIn?_unknown hu, Option.any_none, if_neg Bool.false_ne_true, Nat.add_zero]

lemma size_foldlM {fs : List Field} {h t : Headers} (ht : fs.foldlM Headers.takeField h = .ok t) :
    t.removeHopByHop.size = h.removeHopByHop.size + passing fs := by
  induction fs using List.reverseRecOn generalizing t with
  | nil =>
    cases ht
    rw [passing, List.countP_nil, Nat.add_zero]
  | append_singleton fs f ih =>
    obtain ⟨u, hu, hf⟩ := foldlM_concat.mp ht
    rw [size_takeField hf, ih hu, passing, passing, passing, List.countP_append, Nat.add_assoc]

lemma size_of_cut {b : ByteArray} {fs : List Field} {h : Headers} (hcut : Cut b fs)
    (hd : Headers.decode b = .ok h) : h.removeHopByHop.size = passing fs := by
  rw [Headers.decode, fold_of_cut hcut] at hd
  rw [size_foldlM hd, size_removeHopByHop]
  exact Nat.zero_add _

lemma passing_le (fs : List Field) : headSize * passing fs ≤ (encodeAll fs).size := by
  have hcount : passing fs ≤ fs.length := List.countP_le_length
  have hfields : headSize * fs.length ≤ (encodeAll fs).size := by
    induction fs with
    | nil => exact Nat.zero_le _
    | cons f fs ih =>
      have hrest := ih List.countP_le_length
      rw [size_encodeAll_cons, List.length_cons, Nat.mul_succ]
      omega
  exact Nat.le_trans (Nat.mul_le_mul_left _ hcount) hfields

lemma size_token_pos {s : String} (h : Text.isToken s = true) : 0 < s.utf8ByteSize := by
  apply Nat.pos_of_ne_zero
  intro hzero
  rw [String.utf8ByteSize_eq_zero_iff.mp hzero] at h
  cases h

/-- What a map makes of the headers that came in a message, under this tag. As a pair takes five
bytes at least, only a message of so many bytes can bring more pairs than a map holds. -/
structure Limited (d : ByteArray) (tag : UInt8) (least : Nat) (h : Headers) : Prop where
  counted : ∀ fs b gs, Cut d fs → last tag fs = some b → Cut b gs →
    h.removeHopByHop.size = passing gs
  sized : 0 < h.removeHopByHop.size → least + 5 * h.removeHopByHop.size ≤ d.size
  mapped : h.removeHopByHop.size ≤ 24576 → ∃ m, h.removeHopByHop.toMap = .ok m ∧ Proper m ∧
    ∀ name, m.values name = taken h.removeHopByHop.pairs name
  refused : 24576 < h.removeHopByHop.size →
    h.removeHopByHop.toMap = .error (.headerCount h.removeHopByHop.size)

variable {d : ByteArray} {tag : UInt8} {h : Headers}

lemma counted_of_tells {fs : List Field} (ht : Tells (IsMessage .headers) .empty (last tag fs) h)
    {b : ByteArray} {gs : List Field} (hl : last tag fs = some b) (hgs : Cut b gs) :
    h.removeHopByHop.size = passing gs := by
  rw [hl] at ht
  exact size_of_cut hgs ht

lemma exists_last_of_pos {fs : List Field} (ht : Tells (IsMessage .headers) .empty (last tag fs) h)
    (hpos : 0 < h.removeHopByHop.size) :
    ∃ b, last tag fs = some b ∧ 5 * h.removeHopByHop.size ≤ b.size := by
  rcases tells_cases ht with ⟨-, rfl⟩ | ⟨b, hl, hb⟩
  · rw [size_removeHopByHop] at hpos
    exact absurd hpos (by decide)
  · obtain ⟨gs, hgs, -⟩ := reads_of_decode (k := .headers) hb
    refine ⟨b, hl, ?_⟩
    rw [size_of_cut hgs hb, hgs.2]
    exact passing_le gs

lemma toMap_of_many (hmany : 24576 < h.size) : h.toMap = .error (.headerCount h.size) := by
  rw [Headers.toMap]
  exact if_pos hmany

lemma limited_request {r : Request} (hd : Request.decode d = .ok r) : Limited d 5 16 r.headers where
  counted := by
    intro fs b gs hfs hl hgs
    obtain ⟨-, -, -, -, hheaders⟩ := reads_of_cut decoder_request hfs hd
    exact counted_of_tells hheaders hl hgs
  sized := by
    intro hpos
    obtain ⟨fs, hfs, hmethod, huri, -, -, hheaders⟩ := reads_of_decode (k := .request) hd
    obtain ⟨b, hl, hb⟩ := exists_last_of_pos hheaders hpos
    have hthere : [.ofText 1 r.method.text, .ofText 2 r.absoluteUri, ⟨5, b⟩] ⊆ fs := by
      simp only [List.cons_subset, List.nil_subset, and_true]
      exact ⟨mem_of_last hmethod, mem_of_last huri, mem_of_last hl⟩
    have hsize := size_le_of_subset (by simp [Field.ofText]) hthere
    have htoken : 0 < r.method.text.toUTF8.size := by
      rw [String.toUTF8_eq_toByteArray, String.size_toByteArray]
      exact size_token_pos r.method.isToken
    rw [hfs.2]
    simp only [size_encodeAll_cons, encodeAll_nil, ByteArray.size_empty, Field.ofText, headSize] at hsize
    omega
  mapped := toMap_of_few
  refused := toMap_of_many

lemma limited_response {r : Response} (hd : Response.decode d = .ok r) : Limited d 3 12 r.headers where
  counted := by
    intro fs b gs hfs hl hgs
    obtain ⟨-, -, hheaders⟩ := reads_of_cut decoder_response hfs hd
    exact counted_of_tells hheaders hl hgs
  sized := by
    intro hpos
    obtain ⟨fs, hfs, hstatus, -, hheaders⟩ := reads_of_decode (k := .response) hd
    obtain ⟨b, hl, hb⟩ := exists_last_of_pos hheaders hpos
    have hthere : [.ofNat 1 2 r.statusCode.toNat, ⟨3, b⟩] ⊆ fs := by
      simp only [List.cons_subset, List.nil_subset, and_true]
      exact ⟨mem_of_last hstatus, mem_of_last hl⟩
    have hsize := size_le_of_subset (by simp [Field.ofNat]) hthere
    rw [hfs.2]
    simp only [size_encodeAll_cons, encodeAll_nil, ByteArray.size_empty, Field.ofNat,
      Bytes.size_bigEndian, headSize] at hsize
    omega
  mapped := toMap_of_few
  refused := toMap_of_many

end TwoHop.Proofs.Header.Capacity
