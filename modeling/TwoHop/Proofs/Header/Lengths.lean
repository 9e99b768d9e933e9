import TwoHop.Proofs.Header.Values
import TwoHop.Proofs.Wire.Reencoding

namespace TwoHop.Proofs.Header.Lengths

open TwoHop.Field TwoHop.Header
open Text.Letters Values
open Wire.Fields Wire.HeaderFields Wire.Values Wire.Reencoding

def room (p : String × String) : Nat := 15 + p.1.toUTF8.size + p.2.toUTF8.size

def roomOf : List (String × String) → Nat
  | [] => 0
  | p :: pairs => room p + roomOf pairs

lemma roomOf_append (ps qs : List (String × String)) : roomOf (ps ++ qs) = roomOf ps + roomOf qs := by
  induction ps with
  | nil => exact (Nat.zero_add _).symm
  | cons p ps ih => rw [List.cons_append, roomOf, roomOf, ih, Nat.add_assoc]

lemma roomOf_filter_le (keeps : String × String → Bool) (pairs : List (String × String)) :
    roomOf (pairs.filter keeps) ≤ roomOf pairs := by
  induction pairs with
  | nil => exact Nat.le_refl _
  | cons p pairs ih =>
    rw [List.filter_cons, roomOf]
    split
    · exact Nat.add_le_add_left ih _
    · exact Nat.le_add_left_of_le ih

lemma roomOf_perm {ps qs : List (String × String)} (h : ps.Perm qs) : roomOf ps = roomOf qs := by
  induction h with
  | nil => rfl
  | cons p _ ih => rw [roomOf, roomOf, ih]
  | swap p q pairs => exact Nat.add_left_comm ..
  | trans _ _ hfirst hsecond => exact hfirst.trans hsecond

lemma size_slotFields_le (slots : List (Slot × String)) :
    (encodeAll (slots.map slotField)).size ≤ roomOf (slots.map fun p => (p.1.name, p.2)) := by
  induction slots with
  | nil => exact Nat.le_refl _
  | cons p slots ih =>
    rw [List.map_cons, size_encodeAll_cons, List.map_cons, roomOf]
    simp only [slotField, Field.ofText, headSize, room]
    omega

lemma size_pairFields (pairs : List (String × String)) :
    (encodeAll (pairs.map pairField)).size = roomOf pairs := by
  induction pairs with
  | nil => rfl
  | cons p pairs ih =>
    rw [← List.singleton_append, List.map_append, encodeAll_append, ByteArray.size_append, ih,
      List.map_singleton, size_pairField, List.singleton_append, roomOf, room]

lemma size_encode_le (h : Headers) : h.encode.size ≤ roomOf h.pairs := by
  rw [Headers.encode, fields_eq, encodeAll_append, ByteArray.size_append, size_pairFields,
    Headers.pairs, roomOf_append]
  exact Nat.add_le_add_right (size_slotFields_le h.declared) _

lemma roomOf_removeHopByHop_le (h : Headers) : roomOf h.removeHopByHop.pairs ≤ roomOf h.pairs := by
  rw [pairs_removeHopByHop]
  exact roomOf_filter_le _ _

lemma pairs_insert_perm (h : Headers) (n v : String) :
    (h.insert n v).pairs.Perm ((Text.lower n, v) :: h.pairs) := by
  rcases insert_cases h n v with ⟨hinsert, -⟩ | ⟨s, hname, hfree, hinsert⟩
  · rw [hinsert, Headers.pairs, Headers.pairs, Headers.pushOther, Array.toList_push,
      ← List.append_assoc]
    exact List.perm_append_singleton _ _
  · obtain ⟨front, back, hfront, hback, hall⟩ := split_slots s
    have hseat : (seat h s v).slots.get s = some v := get_set_self ..
    rw [hinsert, pairs_eq, pairs_eq, hall, slotPairs_append, slotPairs_append, slotPairs_cons,
      slotPairs_cons, slotPairs_seat h v hfront, slotPairs_seat h v hback, hseat, hfree, hname]
    simp only [Option.map_some, Option.map_none, Option.toList_some, Option.toList_none,
      List.nil_append, List.append_assoc, List.cons_append]
    exact List.perm_middle

lemma roomOf_insert (h : Headers) (n v : String) :
    roomOf (h.insert n v).pairs = roomOf h.pairs + room (n, v) := by
  rw [roomOf_perm (pairs_insert_perm h n v), roomOf, Nat.add_comm, room, room, size_lower]

def spaceOf : List (String × ByteArray) → Nat
  | [] => 0
  | p :: pairs => 15 + p.1.toUTF8.size + p.2.size + spaceOf pairs

lemma roomOf_keep_le (h : Headers) (p : String × ByteArray) :
    roomOf (keep h p).pairs ≤ roomOf h.pairs + (15 + p.1.toUTF8.size + p.2.size) := by
  rw [keep]
  cases hv : String.fromUTF8? p.2 with
  | none => exact Nat.le_add_right _ _
  | some text =>
    rw [fromUTF8?_eq_some_iff.mp hv]
    exact Nat.le_of_eq (roomOf_insert h p.1 text)

lemma roomOf_foldl_keep_le (h : Headers) (pairs : List (String × ByteArray)) :
    roomOf (pairs.foldl keep h).pairs ≤ roomOf h.pairs + spaceOf pairs := by
  induction pairs generalizing h with
  | nil => exact Nat.le_refl _
  | cons p pairs ih =>
    have hkeep := roomOf_keep_le h p
    have hrest := ih (keep h p)
    rw [List.foldl_cons, spaceOf]
    omega

lemma roomOf_ofMap_le (m : Map) : roomOf (Headers.ofMap m).pairs ≤ spaceOf m.toList :=
  Nat.le_trans (roomOf_foldl_keep_le .empty m.toList) (Nat.le_of_eq (Nat.zero_add _))

def linesOf : List (String × ByteArray) → Nat
  | [] => 0
  | p :: pairs => p.1.toUTF8.size + p.2.size + 4 + linesOf pairs

lemma spaceOf_le (pairs : List (String × ByteArray)) : spaceOf pairs ≤ 4 * linesOf pairs := by
  induction pairs with
  | nil => exact Nat.le_refl _
  | cons p pairs ih =>
    rw [spaceOf, linesOf]
    omega

lemma size_relayed_le (m : Map) :
    (Headers.ofMap m).removeHopByHop.encode.size ≤ 4 * linesOf m.toList := calc
  _ ≤ roomOf (Headers.ofMap m).removeHopByHop.pairs := size_encode_le _
  _ ≤ roomOf (Headers.ofMap m).pairs := roomOf_removeHopByHop_le _
  _ ≤ spaceOf m.toList := roomOf_ofMap_le m
  _ ≤ 4 * linesOf m.toList := spaceOf_le m.toList

end TwoHop.Proofs.Header.Lengths
