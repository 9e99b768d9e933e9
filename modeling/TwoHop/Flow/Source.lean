import TwoHop.Bytes
import TwoHop.Fault.Io

/-! Sources: byte streams that give a chunk when they are asked for one. A source is a script of
what there will be to read. -/

namespace TwoHop.Flow

inductive Item
  | data (bytes : ByteArray)
  | fault (error : IoError)
  | trailers
  | silence
  deriving DecidableEq

inductive SourceKind
  | chunks
  | reader (capacity : Nat)
  | body (knowsEnd : Bool)
  deriving DecidableEq, Repr

structure Source where
  kind : SourceKind := .chunks
  items : List Item := []
  ended : Bool := false
  asked : Array Nat := #[]
  deriving DecidableEq

inductive Pull
  | waits
  | ended
  | chunk (bytes : ByteArray)
  | fault (error : IoError)
  deriving DecidableEq

def defaultReadSize : Nat := 8192

def Item.weight : Item → Nat
  | .data b => b.size + 1
  | _ => 1

namespace Source

def reader (items : List Item) : Source := { kind := .reader defaultReadSize, items }

def full (b : ByteArray) : Source :=
  { kind := .body true, items := if b.isEmpty then [] else [.data b] }

def total : List Item → Nat
  | [] => 0
  | i :: rest => i.weight + total rest

def weight (s : Source) : Nat := total s.items

def isExhausted (s : Source) : Bool :=
  match s.kind with
  | .chunks => s.ended
  | .reader _ => false
  | .body knowsEnd => knowsEnd && s.items.isEmpty

def pullChunk (s : Source) : Pull × Source :=
  if s.ended then (.ended, s)
  else match s.items with
    | [] => (.ended, { s with ended := true })
    | .data b :: rest => (.chunk b, { s with items := rest })
    | .fault e :: rest => (.fault e, { s with items := rest })
    | .trailers :: rest => (.chunk .empty, { s with items := rest })
    | .silence :: _ => (.waits, s)

/-- An item without bytes reads as the end, once. -/
def pullRead (s : Source) (want : Nat) : Pull × Source :=
  match s.items with
  | [] => (.ended, s)
  | .data b :: rest =>
    if b.isEmpty then (.ended, { s with items := rest })
    else if b.size ≤ want then (.chunk b, { s with items := rest })
    else (.chunk (b.extract 0 want), { s with items := .data (b.extract want b.size) :: rest })
  | .fault e :: rest => (.fault e, { s with items := rest })
  | .trailers :: rest => (.ended, { s with items := rest })
  | .silence :: _ => (.waits, s)

def nextOfBody : List Item → Pull × List Item
  | [] => (.ended, [])
  | .data b :: rest => (.chunk b, rest)
  | .fault e :: rest => (.fault (e.withKind .other), rest)
  | .trailers :: rest => nextOfBody rest
  | .silence :: rest => (.waits, .silence :: rest)

def pullBody (s : Source) : Pull × Source :=
  let (answer, items) := nextOfBody s.items
  (answer, { s with items })

def pull (s : Source) (limit : Nat) : Pull × Source :=
  let s := { s with asked := s.asked.push limit }
  match s.kind with
  | .chunks => s.pullChunk
  | .reader capacity => s.pullRead (min (max limit 1) (max capacity 1))
  | .body _ => s.pullBody

def supply (s : Source) (b : ByteArray) : Source :=
  if b.isEmpty then s
  else { s with items := s.items.filter (· ≠ .silence) ++ [.data b, .silence] }

def hangUp (s : Source) : Source := { s with items := s.items.filter (· ≠ .silence) }

theorem weight_pullChunk {s : Source} {b : ByteArray} (h : s.pullChunk.1 = .chunk b) :
    s.pullChunk.2.weight < s.weight ∧ s.pullChunk.2.weight + b.size ≤ s.weight := by
  obtain ⟨kind, items, ended, asked⟩ := s
  cases ended with
  | true => cases h
  | false =>
    cases items with
    | nil => cases h
    | cons i rest =>
      cases i with
      | data c =>
        obtain rfl : c = b := Pull.chunk.inj h
        simp only [pullChunk, Bool.false_eq_true, if_false, weight, total, Item.weight]
        omega
      | trailers =>
        obtain rfl : .empty = b := Pull.chunk.inj h
        simp only [pullChunk, Bool.false_eq_true, if_false, weight, total, Item.weight,
          ByteArray.size_empty]
        omega
      | fault e => cases h
      | silence => cases h

theorem weight_pullRead {s : Source} {want : Nat} {b : ByteArray} (hw : 0 < want)
    (h : (s.pullRead want).1 = .chunk b) : (s.pullRead want).2.weight < s.weight ∧
      (s.pullRead want).2.weight + b.size ≤ s.weight := by
  obtain ⟨kind, items, ended, asked⟩ := s
  cases items with
  | nil => cases h
  | cons i rest =>
    cases i with
    | data c =>
      by_cases hempty : c.isEmpty
      · simp [pullRead, if_pos hempty] at h
      · by_cases hfits : c.size ≤ want
        · simp only [pullRead, if_neg hempty, if_pos hfits] at h ⊢
          obtain rfl : c = b := Pull.chunk.inj h
          simp only [weight, total, Item.weight]
          omega
        · simp only [pullRead, if_neg hempty, if_neg hfits] at h ⊢
          obtain rfl : c.extract 0 want = b := Pull.chunk.inj h
          simp only [weight, total, Item.weight, ByteArray.size_extract]
          omega
    | fault e => cases h
    | trailers => cases h
    | silence => cases h

theorem weight_nextOfBody {items : List Item} {b : ByteArray} (h : (nextOfBody items).1 = .chunk b) :
    total (nextOfBody items).2 + b.size < total items := by
  induction items with
  | nil => simp [nextOfBody] at h
  | cons i rest ih =>
    cases i with
    | data c =>
      obtain rfl : c = b := Pull.chunk.inj h
      simp only [nextOfBody, total, Item.weight]
      omega
    | fault e => cases h
    | trailers =>
      have hrest := ih h
      simp only [nextOfBody, total, Item.weight]
      omega
    | silence => cases h

theorem weight_pullBody {s : Source} {b : ByteArray} (h : s.pullBody.1 = .chunk b) :
    s.pullBody.2.weight < s.weight ∧ s.pullBody.2.weight + b.size ≤ s.weight := by
  have : _ + b.size < _ := weight_nextOfBody (show (nextOfBody s.items).1 = .chunk b from h)
  simp only [pullBody, weight] at *
  omega

theorem weight_pull {s t : Source} {limit : Nat} {b : ByteArray} (h : s.pull limit = (.chunk b, t)) :
    t.weight < s.weight ∧ t.weight + b.size ≤ s.weight := by
  revert h
  unfold pull
  simp only
  split <;> intro h
  · have := weight_pullChunk (congrArg Prod.fst h)
    rw [h] at this
    exact this
  · have := weight_pullRead (by omega) (congrArg Prod.fst h)
    rw [h] at this
    exact this
  · have := weight_pullBody (congrArg Prod.fst h)
    rw [h] at this
    exact this

theorem weight_pullChunk_le (s : Source) : s.pullChunk.2.weight ≤ s.weight := by
  obtain ⟨kind, items, ended, asked⟩ := s
  cases ended with
  | true => exact Nat.le_refl _
  | false =>
    cases items with
    | nil => exact Nat.le_refl _
    | cons i rest =>
      cases i with
      | silence => exact Nat.le_refl _
      | _ => exact Nat.le_add_left _ _

theorem weight_pullRead_le (s : Source) (want : Nat) : (s.pullRead want).2.weight ≤ s.weight := by
  obtain ⟨kind, items, ended, asked⟩ := s
  cases items with
  | nil => exact Nat.le_refl _
  | cons i rest =>
    cases i with
    | data c =>
      by_cases hempty : c.isEmpty
      · simp [pullRead, if_pos hempty, weight, total]
      · by_cases hfits : c.size ≤ want
        · simp [pullRead, if_neg hempty, if_pos hfits, weight, total]
        · simp [pullRead, if_neg hempty, if_neg hfits, weight, total, Item.weight]
    | silence => exact Nat.le_refl _
    | _ => exact Nat.le_add_left _ _

theorem weight_nextOfBody_le (items : List Item) :
    total (nextOfBody items).2 ≤ total items := by
  induction items with
  | nil => exact Nat.le_refl _
  | cons i rest ih =>
    cases i with
    | trailers => exact Nat.le_trans ih (Nat.le_add_left _ _)
    | silence => exact Nat.le_refl _
    | _ => exact Nat.le_add_left _ _

theorem weight_pull_le (s : Source) (limit : Nat) : (s.pull limit).2.weight ≤ s.weight := by
  unfold pull
  simp only
  split
  · exact weight_pullChunk_le _
  · exact weight_pullRead_le _ _
  · exact weight_nextOfBody_le s.items

end Source

end TwoHop.Flow
