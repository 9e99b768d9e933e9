import TwoHop.Flow.Sink

/-! The queue between the writer of a streamed body and its reader. It holds so many chunks and no
more; either half may be given up first. -/

namespace TwoHop.Flow

inductive Sender
  | open
  | aborting
  | gone
  deriving DecidableEq, Repr

structure Queue where
  capacity : Nat
  items : List (Except IoError ByteArray) := []
  sender : Sender := .open
  reader : Bool := true
  capacity_pos : 0 < capacity

inductive Read
  | waits
  | ended
  | chunk (bytes : ByteArray)
  | fault (error : IoError)
  deriving DecidableEq

namespace Queue

def make (capacity : Nat) : Queue := { capacity := max capacity 1, capacity_pos := by omega }

def mostPlaces : Nat := 2305843009213693951

/-- The queue of a new body. Asking for too many places ends everything, and there is none. -/
def ofCapacity? (capacity : Nat) : Option Queue :=
  if max capacity 1 ≤ mostPlaces then some (make capacity) else none

def bodyCapacity : Nat := 16

def finishedFault : IoError := ⟨.brokenPipe, "Body already finished", []⟩

def droppedFault : IoError := ⟨.brokenPipe, "Body receiver dropped", []⟩

def isFull (q : Queue) : Bool := q.capacity ≤ q.items.length

def offer (q : Queue) (b : ByteArray) : Offer × Queue :=
  if q.sender ≠ .open then (.refused finishedFault, q)
  else if !q.reader then (.refused droppedFault, q)
  else if q.isFull then (.waits, q)
  else (.took b.size, { q with items := q.items ++ [.ok b] })

def close (q : Queue) : Queue := { q with sender := .gone }

def beginAbort (q : Queue) : Queue :=
  if q.sender = .open then { q with sender := .aborting } else q

/-- The error takes a place in the queue as soon as there is one. The answer is whether that is
done. -/
def tryAbort (q : Queue) (e : IoError) : Bool × Queue :=
  if q.sender ≠ .aborting then (true, q)
  else if !q.reader then (true, q.close)
  else if q.isFull then (false, q)
  else (true, { q with items := q.items ++ [.error e], sender := .gone })

def abandonAbort (q : Queue) : Queue :=
  if q.sender = .aborting then q.close else q

def read (q : Queue) : Read × Queue :=
  match q.items with
  | .ok b :: rest => (.chunk b, { q with items := rest })
  | .error e :: rest => (.fault e, { q with items := rest })
  | [] => (if q.sender = .gone then .ended else .waits, q)

def dropReader (q : Queue) : Queue := { q with reader := false, items := [] }

def finish (q : Queue) : Except IoError Unit × Queue := (.ok (), q.close)

instance : Sink Queue := ⟨offer, fun q => (.ok (), q), finish⟩

theorem length_offer_le (q : Queue) (b : ByteArray) :
    (q.offer b).2.items.length ≤ q.items.length + 1 := by
  unfold offer
  repeat' split
  all_goals simp

theorem length_write_le (q : Queue) (b : ByteArray) :
    (Sink.write q b).2.items.length ≤ q.items.length + 1 := length_offer_le q b

theorem items_close (q : Queue) : q.close.items = q.items := rfl

theorem items_beginAbort (q : Queue) : q.beginAbort.items = q.items := by
  unfold beginAbort
  split <;> rfl

theorem length_tryAbort_le (q : Queue) (e : IoError) :
    (q.tryAbort e).2.items.length ≤ q.items.length + 1 := by
  unfold tryAbort
  repeat' split
  all_goals simp [close]

theorem length_read {q r : Queue} {b : ByteArray} (h : q.read = (.chunk b, r)) :
    r.items.length + 1 = q.items.length := by
  revert h
  unfold read
  split
  · rename_i hq
    rintro ⟨⟩
    simp [hq]
  · simp
  · split <;> simp

end Queue

end TwoHop.Flow
