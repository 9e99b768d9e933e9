import TwoHop.Proofs.Flow.Channel
import TwoHop.Proofs.Flow.Truncation

/-! A relayed body does not run ahead of its reader: what has been drawn from the source and is not
yet in the reader's hands fits into the queue, but for the one chunk that is being written. -/

namespace TwoHop.Proofs.Flow.Backpressure

open TwoHop.Flow
open Content Intake Reading Truncation Channel

inductive Act
  | turn (turn : Turn)
  | leave

def act (x : Session) : Act → Session
  | .turn t => x.turn t
  | .leave => { x with relay := x.relay.dropReader }

def acted (x : Session) (acts : List Act) : Session := acts.foldl act x

/-- The places of the queue that chunks have taken up; those of a queue that nobody reads are all
taken for good. -/
def taken (q : Queue) : Nat := if q.reader then q.items.countP Except.isOk else q.capacity

def inHand : Phase → Nat
  | .reading => 0
  | _ => 1

def handed : Read → Nat
  | .chunk _ => 1
  | _ => 0

structure Owes (source : Source) (ahead held : Nat) (t : Transfer Queue) : Prop where
  becomes : Becomes source t.source
  capacity : t.sink.capacity = Queue.bodyCapacity
  fits : Fits t.sink
  bound : ahead + (drawn source t.source).length ≤ held + taken t.sink + inHand t.copy.phase

variable {source : Source} {ahead held : Nat} {t u : Transfer Queue} {q l : Queue} {r s : Relay}

lemma taken_le (h : Fits q) : taken q ≤ q.capacity := by
  rw [taken]
  split
  · exact Nat.le_trans List.countP_le_length h
  · exact Nat.le_refl _

lemma inHand_le (p : Phase) : inHand p ≤ 1 := by
  cases p <;> simp [inHand]

lemma inHand_conclude (c : Copy) (result : Except Fault Nat) :
    inHand (c.conclude result).phase = 1 := by
  rw [Copy.conclude]
  cases c.policy.ends result <;> rfl

lemma taken_push_fault (q : Queue) (e : IoError) :
    taken { q with items := q.items ++ [.error e], sender := .gone } = taken q := by
  simp [taken, Except.isOk, Except.toBool]

lemma taken_beginAbort (q : Queue) : taken q.beginAbort = taken q := by
  rw [Queue.beginAbort]
  split <;> rfl

lemma taken_tryAbort (q : Queue) (e : IoError) : taken (q.tryAbort e).2 = taken q := by
  rw [Queue.tryAbort]
  split
  · rfl
  · split
    · rfl
    · split
      · rfl
      · exact taken_push_fault q e

lemma taken_read {answer : Read} (h : q.read = (answer, l)) : taken q ≤ taken l + handed answer := by
  rw [Queue.read] at h
  split at h
  · next b rest hitems =>
    cases h
    simp only [taken, hitems, List.countP_cons]
    split <;> simp [handed, Except.isOk, Except.toBool]
  · next e rest hitems =>
    cases h
    simp only [taken, hitems, List.countP_cons]
    split <;> simp [handed, Except.isOk, Except.toBool]
  · cases h
    exact Nat.le_add_right _ _

lemma taken_dropReader (h : Fits q) : taken q ≤ taken q.dropReader := taken_le h

lemma write_cases (q : Queue) (b : ByteArray) :
    Sink.write q b = (.waits, q) ∨ (∃ e, Sink.write q b = (.failed e, q)) ∨
      ∃ l, Sink.write q b = (.all, l) ∧ Kept q l ∧ taken l = taken q + 1 := by
  simp only [Sink.write, Sink.offer, Queue.offer]
  split
  · exact Or.inr (Or.inl ⟨_, rfl⟩)
  · split
    · exact Or.inr (Or.inl ⟨_, rfl⟩)
    · next hreader =>
      split
      · exact Or.inl rfl
      · next hfull =>
        refine Or.inr (Or.inr ⟨_, by simp [Written.ofOffer]; rfl, kept_push hfull (.ok b) _, ?_⟩)
        have hreader : q.reader = true := by simpa using hreader
        simp [taken, hreader, Except.isOk, Except.toBool]

lemma owes_sink (h : Owes source ahead held t) (hkept : Kept t.sink q) {later : Nat}
    (htaken : held + taken t.sink ≤ later + taken q) :
    Owes source ahead later { t with sink := q } where
  becomes := h.becomes
  capacity := hkept.capacity.trans h.capacity
  fits := hkept.fits h.fits
  bound := by
    have hbound := h.bound
    dsimp only
    omega

lemma owes_phase (h : Owes source ahead held t) {c : Copy} (hc : inHand t.copy.phase ≤ inHand c.phase) :
    Owes source ahead held { t with copy := c } where
  becomes := h.becomes
  capacity := h.capacity
  fits := h.fits
  bound := by
    have hbound := h.bound
    dsimp only
    omega

lemma owes_conclude (h : Owes source ahead held t) (result : Except Fault Nat) :
    Owes source ahead held { t with copy := t.copy.conclude result } := by
  apply owes_phase h
  rw [inHand_conclude]
  exact inHand_le _

lemma owes_read (h : Owes source ahead held t) (hp : t.copy.phase = .reading)
    (hs : t.read = some u) : Owes source ahead held u := by
  have hbecomes := becomes_pull h.becomes defaultReadSize
  have hdrawn := drawn_pull h.becomes defaultReadSize
  have hbound := h.bound
  rw [hp] at hbound
  simp only [Transfer.read] at hs
  generalize t.source.pull defaultReadSize = pulled at hbecomes hdrawn hs
  obtain ⟨answer, later⟩ := pulled
  dsimp only at hbecomes hdrawn
  have hpulled (hnone : (chunkOf answer).filter (fun b => !b.isEmpty) = []) :
      Owes source ahead held { t with source := later } := by
    refine ⟨hbecomes, h.capacity, h.fits, ?_⟩
    rw [hdrawn, hnone, List.append_nil, hp]
    exact hbound
  cases answer with
  | waits => cases hs
  | ended =>
    cases hs
    exact owes_conclude (hpulled rfl) (.ok t.copy.total)
  | fault e =>
    cases hs
    exact owes_conclude (hpulled rfl) (.error (.io e))
  | chunk b =>
    dsimp only at hs
    split at hs
    · next hb =>
      cases hs
      exact hpulled (by simp [chunkOf, hb])
    · cases hs
      refine ⟨hbecomes, h.capacity, h.fits, ?_⟩
      have hfew := List.length_filter_le (fun b => !b.isEmpty) (chunkOf (.chunk b))
      rw [hdrawn, List.length_append]
      simp only [inHand, chunkOf, List.length_singleton, Copy.beginWrite] at *
      omega

lemma owes_write (h : Owes source ahead held t) {rest : ByteArray}
    (hp : t.copy.phase = .writing rest) (hs : t.write rest = some u) : Owes source ahead held u := by
  have hbound := h.bound
  rw [hp] at hbound
  rw [Transfer.write] at hs
  rcases write_cases t.sink rest with hwrite | ⟨e, hwrite⟩ | ⟨l, hwrite, hkept, htaken⟩
  · simp [hwrite] at hs
  · rw [hwrite] at hs
    cases hs
    exact owes_conclude h (.error (.sinkWrite e))
  · rw [hwrite] at hs
    cases hs
    refine ⟨h.becomes, hkept.capacity.trans h.capacity, hkept.fits h.fits, ?_⟩
    simp only [inHand] at hbound
    dsimp only
    omega

lemma owes_step (h : Owes source ahead held t) (hs : t.step = some u) : Owes source ahead held u := by
  rw [Transfer.step] at hs
  split at hs
  · next hp => exact owes_read h hp hs
  · next rest hp => exact owes_write h hp hs
  · next result hp =>
    cases hs
    apply owes_phase (owes_sink h (kept_close t.sink) (Nat.le_refl _))
    rw [hp]
    exact Nat.le_refl _
  · cases hs

lemma owes_feed (h : Owes source ahead held r.transfer) (hs : r.feed = some s) :
    Owes source ahead held s.transfer := by
  obtain ⟨t, feeding⟩ := r
  cases feeding with
  | copying =>
    simp only [Relay.feed] at hs
    split at hs
    · obtain ⟨u, hu, rfl⟩ := Option.map_eq_some_iff.mp hs
      exact owes_step h hu
    · cases hs
      exact owes_sink h (kept_close t.sink) (Nat.le_refl _)
    · cases hs
      exact owes_sink h (kept_beginAbort t.sink) (Nat.add_le_add_left (Nat.le_of_eq (taken_beginAbort _).symm) _)
  | aborting e =>
    simp only [Relay.feed] at hs
    split at hs
    · cases hs
    · next q hq =>
      cases hs
      have hkept := kept_tryAbort t.sink e
      have htaken := taken_tryAbort t.sink e
      rw [show t.sink.tryAbort e = (true, q) from hq] at hkept htaken
      exact owes_sink h hkept (Nat.add_le_add_left (Nat.le_of_eq htaken.symm) _)
  | stopped => cases hs

def InBounds (source : Source) (ahead : Nat) (x : Session) : Prop :=
  Owes source ahead x.held.length x.relay.transfer

variable {x : Session}

lemma inBounds_read (h : InBounds source ahead x) : InBounds source ahead x.read := by
  have hread : x.relay.queue.read = (x.relay.read.1, x.relay.read.2.queue) := rfl
  have hkept := kept_read x.relay.queue
  have htaken := taken_read hread
  rw [hread] at hkept
  have howes {later : Nat} (hlater : later = x.held.length + handed x.relay.read.1) :
      Owes source ahead later x.relay.read.2.transfer := by
    apply owes_sink h hkept
    simp only [Relay.queue] at htaken ⊢
    omega
  rw [Session.read]
  generalize x.relay.read = told at howes
  obtain ⟨answer, r⟩ := told
  cases answer with
  | chunk b => exact howes List.length_append
  | fault e | ended | waits => exact howes rfl

lemma inBounds_act (h : InBounds source ahead x) (a : Act) : InBounds source ahead (act x a) := by
  cases a with
  | leave =>
    exact owes_sink h (kept_dropReader _) (Nat.add_le_add_left (taken_dropReader h.fits) _)
  | turn t =>
    cases t with
    | feed =>
      simp only [act, Session.turn, Session.feed]
      cases hf : x.relay.feed with
      | none => exact h
      | some s => exact owes_feed h hf
    | read =>
      simp only [act, Session.turn]
      split
      · exact h
      · exact inBounds_read h

lemma inBounds_acted (h : InBounds source ahead x) (acts : List Act) :
    InBounds source ahead (acted x acts) := by
  induction acts generalizing x with
  | nil => exact h
  | cons a acts ih => exact ih (inBounds_act h a)

lemma inBounds_start (policy : Policy) (ahead : ByteArray) (source : Source) (ended : Bool)
    (meter : Meter) : InBounds source (if ahead.isEmpty then 0 else 1)
      { relay := .start policy ahead source ended meter } := by
  have hnone : drawn source source = [] := by rw [drawn, heard_refl, List.filter_nil]
  show Owes source _ 0 (Transfer.start _ ahead source ended _ meter)
  rw [Transfer.start]
  by_cases ha : ahead.isEmpty = true
  · rw [if_pos ha, if_pos ha]
    exact ⟨becomes_refl source, rfl, Nat.zero_le _, by simp [hnone]⟩
  · rw [if_neg ha, if_neg ha]
    exact ⟨becomes_refl source, rfl, Nat.zero_le _, by simp [hnone, Copy.beginWrite, inHand]⟩

theorem bounded_buffering :
    (∀ (policy : Policy) (ahead : ByteArray) (source : Source) (ended : Bool) (meter : Meter)
        (acts : List Act),
      let x := acted { relay := .start policy ahead source ended meter } acts
      (if ahead.isEmpty then 0 else 1) + (drawn source x.relay.transfer.source).length ≤
        x.held.length + Queue.bodyCapacity + 1) ∧
    ∀ (capacity : Nat) (acts : List Aborting.Act),
      ((Aborting.Ending.mk ⟨.make capacity, true⟩ none).run acts).2.halves.queue.items.length ≤
        max capacity 1 := by
  refine ⟨?_, length_run_make_le⟩
  intro policy ahead source ended meter acts x
  have howes := inBounds_acted (inBounds_start policy ahead source ended meter) acts
  have htaken := taken_le howes.fits
  have hhand := inHand_le x.relay.transfer.copy.phase
  calc _ ≤ x.held.length + taken x.relay.queue + inHand x.relay.transfer.copy.phase := howes.bound
    _ ≤ x.held.length + x.relay.queue.capacity + 1 :=
      Nat.add_le_add (Nat.add_le_add_left htaken _) hhand
    _ = x.held.length + Queue.bodyCapacity + 1 := by rw [Relay.queue, howes.capacity]

end TwoHop.Proofs.Flow.Backpressure
