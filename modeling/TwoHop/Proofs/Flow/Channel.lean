import TwoHop.Proofs.Flow.Aborting

namespace TwoHop.Proofs.Flow.Channel

open TwoHop.Flow Lossless Aborting

def Fits (q : Queue) : Prop := q.items.length ≤ q.capacity

structure Kept (q l : Queue) : Prop where
  capacity : l.capacity = q.capacity
  fits : Fits q → Fits l

variable {q l : Queue}

lemma kept_refl (q : Queue) : Kept q q := ⟨rfl, id⟩

lemma Kept.trans {m : Queue} (hql : Kept q l) (hlm : Kept l m) : Kept q m :=
  ⟨hlm.capacity.trans hql.capacity, fun h => hlm.fits (hql.fits h)⟩

lemma kept_push (h : ¬ q.isFull = true) (item : Except IoError ByteArray) (sender : Sender) :
    Kept q { q with items := q.items ++ [item], sender } := by
  refine ⟨rfl, fun _ => ?_⟩
  simp only [Queue.isFull, decide_eq_true_eq] at h
  simp only [Fits, List.length_append, List.length_singleton]
  omega

lemma kept_close (q : Queue) : Kept q q.close := ⟨rfl, id⟩

lemma kept_offer (q : Queue) (b : ByteArray) : Kept q (q.offer b).2 := by
  rw [Queue.offer]
  split
  · exact kept_refl q
  · split
    · exact kept_refl q
    · split
      · exact kept_refl q
      · next hfull => exact kept_push hfull (.ok b) q.sender

lemma kept_beginAbort (q : Queue) : Kept q q.beginAbort := by
  rw [Queue.beginAbort]
  split
  · exact ⟨rfl, id⟩
  · exact kept_refl q

lemma kept_tryAbort (q : Queue) (e : IoError) : Kept q (q.tryAbort e).2 := by
  rw [Queue.tryAbort]
  split
  · exact kept_refl q
  · split
    · exact kept_close q
    · split
      · exact kept_refl q
      · next hfull => exact kept_push hfull (.error e) .gone

lemma kept_abandonAbort (q : Queue) : Kept q q.abandonAbort := by
  rw [Queue.abandonAbort]
  split
  · exact kept_close q
  · exact kept_refl q

lemma kept_read (q : Queue) : Kept q q.read.2 := by
  rw [Queue.read]
  split
  · next b rest hitems =>
    refine ⟨rfl, fun h => ?_⟩
    rw [Fits, hitems] at h
    exact Nat.le_of_succ_le h
  · next e rest hitems =>
    refine ⟨rfl, fun h => ?_⟩
    rw [Fits, hitems] at h
    exact Nat.le_of_succ_le h
  · exact kept_refl q

lemma kept_dropReader (q : Queue) : Kept q q.dropReader := ⟨rfl, fun _ => Nat.zero_le _⟩

lemma kept_step (x : Halves) (s : Step) : Kept x.queue (x.step s).2.queue := by
  cases s with
  | write b =>
    rw [Halves.step]
    split
    · exact kept_offer x.queue b
    · exact kept_refl x.queue
  | finish =>
    rw [Halves.step]
    split
    · exact kept_close x.queue
    · exact kept_refl x.queue
  | read =>
    rw [Halves.step]
    split
    · exact kept_read x.queue
    · exact kept_refl x.queue
  | dropSink => exact kept_close x.queue
  | dropBody => exact kept_dropReader x.queue

lemma kept_attempt (x : Halves) (e : IoError) : Kept x.queue (attempt x e).2.halves.queue := by
  have hkept := kept_tryAbort x.queue e
  rw [attempt]
  split
  · next hplaced => rwa [hplaced] at hkept
  · next hfull => rwa [hfull] at hkept

lemma kept_act (y : Ending) (a : Act) : Kept y.halves.queue (y.act a).2.halves.queue := by
  cases a with
  | step s =>
    rw [Ending.act]
    split
    · exact kept_refl y.halves.queue
    · exact kept_step y.halves s
  | abort e =>
    rw [Ending.act]
    split
    · exact kept_refl y.halves.queue
    · split
      · exact (kept_beginAbort y.halves.queue).trans
          (kept_attempt { y.halves with queue := y.halves.queue.beginAbort } e)
      · exact kept_refl y.halves.queue
  | resume =>
    rw [Ending.act]
    split
    · exact kept_attempt y.halves _
    · exact kept_refl y.halves.queue
  | abandon =>
    rw [Ending.act]
    split
    · exact kept_abandonAbort y.halves.queue
    · exact kept_refl y.halves.queue

lemma kept_run (y : Ending) (acts : List Act) : Kept y.halves.queue (y.run acts).2.halves.queue := by
  induction acts generalizing y with
  | nil => exact kept_refl y.halves.queue
  | cons a acts ih => exact (kept_act y a).trans (ih (y.act a).2)

lemma length_run_make_le (capacity : Nat) (acts : List Act) :
    ((Ending.mk ⟨.make capacity, true⟩ none).run acts).2.halves.queue.items.length ≤
      max capacity 1 := by
  have hkept := kept_run (Ending.mk ⟨.make capacity, true⟩ none) acts
  calc _ ≤ ((Ending.mk ⟨.make capacity, true⟩ none).run acts).2.halves.queue.capacity :=
        hkept.fits (Nat.zero_le _)
    _ = max capacity 1 := hkept.capacity

end TwoHop.Proofs.Flow.Channel
