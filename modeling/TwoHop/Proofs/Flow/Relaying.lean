import TwoHop.Flow.Outlet
import TwoHop.Flow.Relay
import TwoHop.Proofs.Flow.Delivery

namespace TwoHop.Proofs.Flow.Relaying

open TwoHop.Flow
open Content Delivery

def queued : List (Except IoError ByteArray) → ByteArray × Option IoError
  | [] => (.empty, none)
  | .ok b :: rest => (b ++ (queued rest).1, (queued rest).2)
  | .error e :: _ => (.empty, some e)

lemma queued_concat {items : List (Except IoError ByteArray)} (h : (queued items).2 = none)
    (last : Except IoError ByteArray) :
    queued (items ++ [last]) = ((queued items).1 ++ (queued [last]).1, (queued [last]).2) := by
  induction items with
  | nil => simp [queued]
  | cons i rest ih =>
    cases i with
    | ok b => simp [queued, ih h, ByteArray.append_assoc]
    | error e => simp [queued] at h

structure Open (q : Queue) : Prop where
  sender : q.sender = .open
  reader : q.reader = true
  sane : (queued q.items).2 = none

lemma offer_open {q : Queue} (h : Open q) (b : ByteArray) :
    q.offer b = if q.isFull then (.waits, q)
      else (.took b.size, { q with items := q.items ++ [.ok b] }) := by
  simp [Queue.offer, h.sender, h.reader]

lemma faithful_queue : Faithful Open fun q : Queue => (queued q.items).1 where
  offer := by
    intro q b h hb
    show (∃ l, q.offer b = (.waits, l)) ∨ ∃ n l, q.offer b = (.took n, l) ∧ _
    rw [offer_open h b]
    split
    · exact Or.inl ⟨q, rfl⟩
    · have hc := queued_concat h.sane (.ok b)
      refine Or.inr ⟨b.size, _, rfl, hb, ⟨h.sender, h.reader, by rw [hc]; rfl⟩, ?_⟩
      rw [hc]
      simp [queued]
  finish := fun _ => ⟨rfl, rfl⟩

lemma sane_write {q : Queue} (h : Open q) (b : ByteArray) :
    (queued (Sink.write q b).2.items).2 = none := by
  show (queued (q.offer b).2.items).2 = none
  rw [offer_open h b]
  split
  · exact h.sane
  · rw [queued_concat h.sane]
    rfl

lemma sane_step {t u : Transfer Queue} (hs : Sound Open t) (h : t.step = some u)
    (hq : (queued t.sink.items).2 = none) : (queued u.sink.items).2 = none := by
  rw [Transfer.step] at h
  split at h
  · rw [Transfer.read] at h
    split at h
    · cases h
    · cases h
      exact hq
    · cases h
      exact hq
    · split at h <;> cases h <;> exact hq
  · next rest hp =>
    have hopen : Open t.sink := by
      rw [Sound, hp] at hs
      exact hs.2
    have hw := sane_write hopen rest
    rw [Transfer.write] at h
    split at h
    · cases h
    all_goals
      next hwrite =>
        rw [hwrite] at hw
        cases h
        exact hw
  · cases h
    exact hq
  · cases h

def shown : Option (Except Fault Nat) → Ending
  | some (.ok _) => .clean
  | some (.error f) => .fault (Relay.shownFault f)
  | none => .silent

def promise (r : Relay) : ByteArray × Ending :=
  match r.feeding with
  | .copying => ((queued r.queue.items).1 ++ (forecast r.transfer).1, shown (forecast r.transfer).2)
  | .aborting e => ((queued r.queue.items).1, .fault e)
  | .stopped =>
    ((queued r.queue.items).1,
      match (queued r.queue.items).2 with
      | none => .clean
      | some e => .fault e)

def InStep (r : Relay) : Prop :=
  match r.feeding with
  | .copying => r.transfer.copy.policy.endOnFailure = false ∧ Sound Open r.transfer ∧
      (queued r.queue.items).2 = none
  | .aborting _ => r.queue.sender = .aborting ∧ r.queue.reader = true ∧
      (queued r.queue.items).2 = none
  | .stopped => r.queue.sender = .gone

lemma forecast_of_result {t : Transfer Queue} {result : Except Fault Nat}
    (h : t.result? = some result) :
    t.copy.phase = .done result ∧ forecast t = (.empty, some result) := by
  rw [Transfer.result?, Copy.result?] at h
  split at h
  · next hp =>
    cases h
    exact ⟨hp, by simp [forecast, hp]⟩
  · cases h

lemma inStep_copied {t u : Transfer Queue} (hr : InStep ⟨t, .copying⟩) (h : t.step = some u) :
    InStep ⟨u, .copying⟩ ∧ promise ⟨u, .copying⟩ = promise ⟨t, .copying⟩ := by
  obtain ⟨hpolicy, hs, hq⟩ := hr
  obtain ⟨hsu, hc⟩ := continues_step faithful_queue hs h
  have hpolicy' : u.copy.policy.endOnFailure = false := by
    rw [hc.policy]
    exact hpolicy
  refine ⟨⟨hpolicy', hsu, sane_step hs h hq⟩, ?_⟩
  simp only [promise, Relay.queue]
  rw [hc.bytes, hc.result]

lemma promise_closed {t : Transfer Queue} {n : Nat} (hr : InStep ⟨t, .copying⟩)
    (h : t.result? = some (.ok n)) :
    promise ⟨{ t with sink := t.sink.close }, .stopped⟩ = promise ⟨t, .copying⟩ := by
  obtain ⟨-, hf⟩ := forecast_of_result h
  have hq := hr.2.2
  simp only [Relay.queue] at hq
  simp [promise, Relay.queue, Queue.close, hf, hq, shown]

lemma inStep_failed {t : Transfer Queue} {f : Fault} (hr : InStep ⟨t, .copying⟩)
    (h : t.result? = some (.error f)) :
    InStep ⟨{ t with sink := t.sink.beginAbort }, .aborting (Relay.shownFault f)⟩ ∧
      promise ⟨{ t with sink := t.sink.beginAbort }, .aborting (Relay.shownFault f)⟩ =
        promise ⟨t, .copying⟩ := by
  obtain ⟨hpolicy, hs, -⟩ := hr
  obtain ⟨hp, hf⟩ := forecast_of_result h
  have hopen : Open t.sink := by
    rw [Sound, hp] at hs
    exact hs hpolicy
  refine ⟨?_, ?_⟩
  · simp [InStep, Relay.queue, Queue.beginAbort, hopen.sender, hopen.reader, hopen.sane]
  · simp [promise, Relay.queue, Queue.beginAbort, hopen.sender, hf, shown]

lemma inStep_aborted {t : Transfer Queue} {e : IoError} {q : Queue}
    (hr : InStep ⟨t, .aborting e⟩) (h : t.sink.tryAbort e = (true, q)) :
    InStep ⟨{ t with sink := q }, .stopped⟩ ∧
      promise ⟨{ t with sink := q }, .stopped⟩ = promise ⟨t, .aborting e⟩ := by
  obtain ⟨hsender, hreader, hq⟩ := hr
  simp only [Relay.queue] at hsender hreader hq
  simp only [Queue.tryAbort, hsender, hreader] at h
  by_cases hfull : t.sink.isFull = true
  · simp [hfull] at h
  · simp [hfull] at h
    subst h
    have hc := queued_concat hq (.error e)
    refine ⟨rfl, ?_⟩
    simp [promise, Relay.queue, hc, queued]

lemma inStep_feed {r s : Relay} (hr : InStep r) (h : r.feed = some s) :
    InStep s ∧ promise s = promise r := by
  obtain ⟨t, feeding⟩ := r
  cases feeding with
  | copying =>
    simp only [Relay.feed] at h
    split at h
    · next hnone =>
      obtain ⟨u, hu, rfl⟩ := Option.map_eq_some_iff.mp h
      exact inStep_copied hr hu
    · next n hres =>
      cases h
      exact ⟨rfl, promise_closed hr hres⟩
    · next f hres =>
      cases h
      exact inStep_failed hr hres
  | aborting e =>
    simp only [Relay.feed] at h
    split at h
    · cases h
    · next q hq =>
      cases h
      exact inStep_aborted hr hq
  | stopped => cases h

lemma promise_of_ended {r : Relay} (hr : InStep r) (hi : r.queue.items = [])
    (hg : r.queue.sender = .gone) : promise r = (.empty, .clean) := by
  obtain ⟨t, feeding⟩ := r
  cases feeding with
  | copying =>
    obtain ⟨hpolicy, hs, -⟩ := hr
    have hclosed : ¬ Open t.sink := fun h => by
      have hopen := h.sender
      simp only [Relay.queue] at hg
      rw [hg] at hopen
      cases hopen
    obtain ⟨⟨policy, phase, sourceEnded, copied⟩, source, q, meter⟩ := t
    cases phase with
    | reading | writing _ | closing _ => exact absurd hs.2 hclosed
    | done result =>
      cases result with
      | ok n =>
        simp only [Relay.queue] at hi
        simp [promise, Relay.queue, hi, queued, forecast, shown]
      | error f => exact absurd (hs hpolicy) hclosed
  | aborting e =>
    rw [hr.1] at hg
    cases hg
  | stopped => simp [promise, hi, queued]

lemma promise_of_stuck {r : Relay} (hr : InStep r) (hi : r.queue.items = [])
    (hg : r.queue.sender ≠ .gone) (hf : r.feed = none) : promise r = (.empty, .silent) := by
  have hroom : r.queue.isFull = false := by
    have := r.queue.capacity_pos
    simp only [Queue.isFull, hi, List.length_nil, decide_eq_false_iff_not]
    omega
  obtain ⟨t, feeding⟩ := r
  cases feeding with
  | copying =>
    obtain ⟨-, hs, -⟩ := hr
    simp only [Relay.queue] at hi hroom
    simp only [Relay.feed] at hf
    split at hf
    · next hres =>
      rcases forecast_of_stop hs (Option.map_eq_none_iff.mp hf) with ⟨hb, hr⟩ | ⟨rest, _, hk, hw⟩
      · simp [promise, Relay.queue, hi, queued, hb, ← hr, hres, shown]
      · change (t.sink.offer rest).1 = .waits at hw
        simp [offer_open hk, hroom] at hw
    · cases hf
    · cases hf
  | aborting e =>
    obtain ⟨hsender, hreader, -⟩ := hr
    simp [Relay.feed, Queue.tryAbort, hsender, hreader, hroom] at hf
  | stopped => exact absurd hr hg

def Answered (r : Relay) : Read × Relay → Prop
  | (.chunk b, s) => InStep s ∧ promise r = (b ++ (promise s).1, (promise s).2)
  | (.fault e, _) => promise r = (.empty, .fault e)
  | (.ended, _) => promise r = (.empty, .clean)
  | (.waits, _) => r.feed = none → promise r = (.empty, .silent)

lemma sound_items {t : Transfer Queue} {b : ByteArray} {rest : List (Except IoError ByteArray)}
    (hs : Sound Open t) (hi : t.sink.items = .ok b :: rest) :
    Sound Open { t with sink := { t.sink with items := rest } } := by
  have hopen (h : Open t.sink) : Open { t.sink with items := rest } :=
    ⟨h.sender, h.reader, by simpa [hi, queued] using h.sane⟩
  obtain ⟨⟨policy, phase, sourceEnded, copied⟩, source, q, meter⟩ := t
  cases phase with
  | reading | writing _ | closing _ => exact ⟨hs.1, hopen hs.2⟩
  | done result => exact fun h => hopen (hs h)

lemma answered_read {r : Relay} (hr : InStep r) : Answered r r.read := by
  cases hi : r.queue.items with
  | nil =>
    simp only [Relay.read, Queue.read, hi]
    by_cases hg : r.queue.sender = .gone
    · rw [if_pos hg]
      exact promise_of_ended hr hi hg
    · rw [if_neg hg]
      exact promise_of_stuck hr hi hg
  | cons i rest =>
    obtain ⟨t, feeding⟩ := r
    simp only [Relay.queue] at hi
    cases i with
    | ok b =>
      simp only [Relay.read, Relay.queue, Queue.read, hi]
      cases feeding with
      | copying =>
        obtain ⟨hpolicy, hs, hq⟩ := hr
        simp only [Relay.queue, hi, queued] at hq
        refine ⟨⟨hpolicy, sound_items hs hi, hq⟩, ?_⟩
        simp only [promise, Relay.queue, Relay.withQueue, hi, queued, ByteArray.append_assoc]
        rfl
      | aborting e =>
        obtain ⟨hsender, hreader, hq⟩ := hr
        simp only [Relay.queue, hi, queued] at hq
        refine ⟨⟨hsender, hreader, hq⟩, ?_⟩
        simp only [promise, Relay.queue, Relay.withQueue, hi, queued]
      | stopped =>
        refine ⟨hr, ?_⟩
        simp only [promise, Relay.queue, Relay.withQueue, hi, queued]
    | error e =>
      simp only [Relay.read, Relay.queue, Queue.read, hi]
      cases feeding with
      | copying =>
        have hq := hr.2.2
        simp [Relay.queue, hi, queued] at hq
      | aborting e =>
        have hq := hr.2.2
        simp [Relay.queue, hi, queued] at hq
      | stopped => simp [Answered, promise, Relay.queue, hi, queued]

inductive Reads : Relay → List ByteArray → Relay → Prop
  | start (r : Relay) : Reads r [] r
  | feed {r s t : Relay} {chunks : List ByteArray} :
      Reads r chunks s → s.feed = some t → Reads r chunks t
  | chunk {r s t : Relay} {chunks : List ByteArray} {b : ByteArray} :
      Reads r chunks s → s.read = (.chunk b, t) → Reads r (chunks ++ [b]) t

lemma promise_reads {r s : Relay} {chunks : List ByteArray} (hr : InStep r) (h : Reads r chunks s) :
    InStep s ∧ promise r = (Bytes.join chunks ++ (promise s).1, (promise s).2) := by
  -- Feeding changes nothing in the promise, reading takes its first chunk off.
  induction h with
  | start => exact ⟨hr, by simp⟩
  | feed _ hf ih =>
    obtain ⟨hs, hp⟩ := ih
    obtain ⟨ht, he⟩ := inStep_feed hs hf
    exact ⟨ht, by rw [hp, he]⟩
  | chunk _ hread ih =>
    obtain ⟨hs, hp⟩ := ih
    have ha := answered_read hs
    rw [hread] at ha
    obtain ⟨ht, he⟩ := ha
    refine ⟨ht, ?_⟩
    rw [hp, he, Bytes.join_concat, ByteArray.append_assoc]

def endError : Ending → Option IoError
  | .fault e => some e
  | _ => none

lemma collect_of_feed {r s : Relay} (h : r.feed = some s) (seen : Contents) :
    r.collect seen = s.collect seen := by
  rw [Relay.collect]
  split <;> simp_all

lemma collect_of_read {r : Relay} (h : r.feed = none) (seen : Contents) : r.collect seen =
    match r.read with
    | (.chunk b, s) => s.collect { seen with chunks := seen.chunks.push b }
    | (.fault e, s) => ({ seen with fault := some e }, s)
    | (.ended, s) => (seen, s)
    | (.waits, s) => (seen, s) := by
  rw [Relay.collect]
  split
  · simp_all
  · split <;> simp_all

lemma collect_promise {r : Relay} (hr : InStep r) (seen : Contents) :
    Bytes.join (r.collect seen).1.chunks.toList =
        Bytes.join seen.chunks.toList ++ (promise r).1 ∧
      (seen.fault = none → (r.collect seen).1.fault = endError (promise r).2) := by
  induction r, seen using Relay.collect.induct with
  | case1 r seen s hf ih =>
    obtain ⟨hs, hp⟩ := inStep_feed hr hf
    rw [collect_of_feed hf, ← hp]
    exact ih hs
  | case2 r seen hf b s hread ih =>
    have ha := answered_read hr
    rw [hread] at ha
    obtain ⟨hs, hp⟩ := ha
    obtain ⟨hb, he⟩ := ih hs
    rw [collect_of_read hf, hread, hp]
    refine ⟨?_, he⟩
    rw [hb, Array.toList_push, Bytes.join_concat, ByteArray.append_assoc]
  | case3 r seen hf e s hread =>
    have ha := answered_read hr
    rw [hread] at ha
    rw [collect_of_read hf, hread, show promise r = _ from ha]
    simp [endError]
  | case4 r seen hf s hread =>
    have ha := answered_read hr
    rw [hread] at ha
    rw [collect_of_read hf, hread, show promise r = _ from ha]
    simp [endError]
  | case5 r seen hf s hread =>
    have ha := answered_read hr
    rw [hread] at ha
    rw [collect_of_read hf, hread, show promise r = _ from ha hf]
    simp [endError]

lemma open_make (capacity : Nat) : Open (.make capacity) := ⟨rfl, rfl, rfl⟩

lemma inStep_start (policy : Policy) (ahead : ByteArray) (source : Source) (ended : Bool)
    (meter : Meter) : InStep (.start policy ahead source ended meter) := by
  refine ⟨?_, sound_start (open_make _), ?_⟩
  · rw [Relay.start, Transfer.start]
    split <;> simp [Copy.beginWrite]
  · rw [Relay.start, Relay.queue, Transfer.start]
    split <;> rfl

lemma promise_start (policy : Policy) (ahead : ByteArray) (source : Source) (ended : Bool)
    (meter : Meter) : promise (.start policy ahead source ended meter) =
      ((toCopy ahead source ended).1, shown (reading 0 (toCopy ahead source ended))) := by
  have hq : (Relay.start policy ahead source ended meter).queue.items = [] := by
    rw [Relay.start, Relay.queue, Transfer.start]
    split <;> rfl
  simp only [promise, Relay.start] at hq ⊢
  rw [hq, forecast_start]
  simp [queued]

end TwoHop.Proofs.Flow.Relaying
