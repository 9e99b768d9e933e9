import TwoHop.Flow.Copy
import TwoHop.Flow.Queue

/-! A relayed body: a copy into a queue runs beside the reader of that queue. When the copy fails,
the body ends with the error and never cleanly. -/

namespace TwoHop.Flow

inductive Feeding
  | copying
  | aborting (error : IoError)
  | stopped
  deriving DecidableEq

structure Relay where
  transfer : Transfer Queue
  feeding : Feeding := .copying

namespace Relay

def shownFault (f : Fault) : IoError := ⟨.other, f.text, []⟩

def start (policy : Policy) (ahead : ByteArray) (source : Source) (sourceEnded : Bool)
    (meter : Meter) : Relay where
  transfer := .start { policy with endOnFailure := false } ahead source sourceEnded
    (.make Queue.bodyCapacity) meter

def queue (r : Relay) : Queue := r.transfer.sink

def withQueue (r : Relay) (q : Queue) : Relay := { r with transfer := { r.transfer with sink := q } }

def feed (r : Relay) : Option Relay :=
  match r.feeding with
  | .copying =>
    match r.transfer.result? with
    | none => r.transfer.step.map fun t => { r with transfer := t }
    | some (.ok _) => some { r.withQueue r.queue.close with feeding := .stopped }
    | some (.error f) =>
      some { r.withQueue r.queue.beginAbort with feeding := .aborting (shownFault f) }
  | .aborting e =>
    match r.queue.tryAbort e with
    | (false, _) => none
    | (true, q) => some { r.withQueue q with feeding := .stopped }
  | .stopped => none

def read (r : Relay) : Read × Relay :=
  let (answer, q) := r.queue.read
  (answer, r.withQueue q)

def dropReader (r : Relay) : Relay := r.withQueue r.queue.dropReader

def Feeding.weight : Feeding → Nat
  | .copying => 4
  | .aborting _ => 2
  | .stopped => 0

def weight (r : Relay) : Nat :=
  2 * r.transfer.weight + r.queue.items.length + Feeding.weight r.feeding

theorem length_step_le {t u : Transfer Queue} (h : t.step = some u) :
    u.sink.items.length ≤ t.sink.items.length + 1 := by
  revert h
  unfold Transfer.step
  split
  · unfold Transfer.read
    split
    · simp
    · rintro ⟨⟩
      simp
    · rintro ⟨⟩
      simp
    · split <;> rintro ⟨⟩ <;> simp
  · rename_i rest _
    have := Queue.length_write_le t.sink rest
    unfold Transfer.write
    split <;> rename_i hw <;> rw [hw] at this
    · simp
    all_goals rintro ⟨⟩
    all_goals exact this
  · rintro ⟨⟩
    exact Nat.le_succ _
  · simp

theorem weight_feed {r s : Relay} (h : r.feed = some s) : s.weight < r.weight := by
  revert h
  unfold feed
  split
  · rename_i hf
    split
    · intro h
      obtain ⟨u, hu, rfl⟩ := Option.map_eq_some_iff.1 h
      have := Transfer.weight_step hu
      have := length_step_le hu
      simp only [weight, queue] at *
      omega
    · rintro ⟨⟩
      simp only [weight, Feeding.weight, hf, queue, withQueue, Transfer.weight, Queue.items_close]
      omega
    · rintro ⟨⟩
      simp only [weight, Feeding.weight, hf, queue, withQueue, Transfer.weight,
        Queue.items_beginAbort]
      omega
  · rename_i e hf
    have := r.queue.length_tryAbort_le e
    split
    · simp
    · rename_i q hq
      rw [hq] at this
      rintro ⟨⟩
      simp only [weight, Feeding.weight, hf, queue, withQueue, Transfer.weight] at *
      omega
  · simp

theorem weight_read {r s : Relay} {b : ByteArray} (h : r.read = (.chunk b, s)) :
    s.weight < r.weight := by
  unfold read at h
  simp only [Prod.mk.injEq] at h
  have := Queue.length_read (Prod.ext h.1 rfl : r.queue.read = (.chunk b, r.queue.read.2))
  rw [← h.2]
  simp only [weight, queue, withQueue, Transfer.weight] at *
  omega

end Relay

structure Contents where
  chunks : Array ByteArray := #[]
  fault : Option IoError := none
  deriving DecidableEq

def Relay.collect (r : Relay) (seen : Contents) : Contents × Relay :=
  match _ : r.feed with
  | some s => s.collect seen
  | none =>
    match _ : r.read with
    | (.chunk b, s) => s.collect { seen with chunks := seen.chunks.push b }
    | (.fault e, s) => ({ seen with fault := some e }, s)
    | (.ended, s) => (seen, s)
    | (.waits, s) => (seen, s)
termination_by r.weight
decreasing_by
  · exact weight_feed ‹_›
  · exact weight_read ‹_›

inductive Body
  | whole (bytes : ByteArray)
  | relayed (relay : Relay)

namespace Body

def empty : Body := .whole .empty

def isEmpty : Body → Bool
  | .whole b => b.isEmpty
  | .relayed _ => false

def contents : Body → Contents
  | .whole b => { chunks := if b.isEmpty then #[] else #[b] }
  | .relayed r => (r.collect {}).1

end Body

end TwoHop.Flow
