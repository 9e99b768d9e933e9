import TwoHop.Proofs.Flow.Reading

/-! A relayed body never hides that it was cut off, and one that nobody reads any more does not go
on drawing from its source. -/

namespace TwoHop.Proofs.Flow.Truncation

open TwoHop.Flow
open Content Delivery Relaying Intake Reading
open Proofs.Bytes

def Unread (q : Queue) : Prop := q.reader = false

def drawn (source now : Source) : List ByteArray := (heard source now).filter fun b => !b.isEmpty

structure Orphaned (source : Source) (t : Transfer Queue) : Prop where
  unread : Unread t.sink
  becomes : Becomes source t.source
  few : (drawn source t.source).length ≤ 1
  fresh : t.copy.phase = .reading → drawn source t.source = []
  sound : Sound Unread t
  ends : (forecast t).2 ≠ none

variable {source : Source} {t u : Transfer Queue}

lemma offer_unread {q : Queue} (h : Unread q) (b : ByteArray) : ∃ e, q.offer b = (.refused e, q) := by
  rw [Queue.offer]
  split
  · exact ⟨_, rfl⟩
  · rw [if_pos (by simp [show q.reader = false from h])]
    exact ⟨_, rfl⟩

lemma drawn_pull {now : Source} (h : Becomes source now) (limit : Nat) :
    drawn source (now.pull limit).2 =
      drawn source now ++ (chunkOf (now.pull limit).1).filter fun b => !b.isEmpty := by
  rw [drawn, heard_pull h, List.filter_append, drawn]

lemma orphaned_read (h : Orphaned source t) (hp : t.copy.phase = .reading) (hs : t.read = some u) :
    Orphaned source u := by
  obtain ⟨hsound, hcontinues⟩ : Sound Unread u ∧ Continues (fun _ => .empty) t u :=
    continues_read hp h.sound hs
  have hends : (forecast u).2 ≠ none := by
    rw [hcontinues.result]
    exact h.ends
  have hbecomes := becomes_pull h.becomes defaultReadSize
  have hdrawn := drawn_pull h.becomes defaultReadSize
  rw [h.fresh hp, List.nil_append] at hdrawn
  simp only [Transfer.read] at hs
  generalize t.source.pull defaultReadSize = pulled at hbecomes hdrawn hs
  obtain ⟨answer, later⟩ := pulled
  cases answer with
  | waits => cases hs
  | ended | fault e =>
    cases hs
    exact ⟨h.unread, hbecomes, by rw [hdrawn]; simp [chunkOf], fun _ => by rw [hdrawn]; rfl, hsound, hends⟩
  | chunk b =>
    dsimp only at hs hbecomes hdrawn
    split at hs
    · next hb =>
      cases hs
      have hnothing : drawn source later = [] := by
        rw [hdrawn]
        simp [chunkOf, hb]
      exact ⟨h.unread, hbecomes, by simp [hnothing], fun _ => hnothing, hsound, hends⟩
    · cases hs
      refine ⟨h.unread, hbecomes, ?_, ?_, hsound, hends⟩
      · rw [hdrawn]
        exact List.length_filter_le _ _
      · intro hreading
        cases hreading

lemma orphaned_write (h : Orphaned source t) {rest : ByteArray} (hs : t.write rest = some u) :
    Orphaned source u := by
  obtain ⟨e, ho⟩ := offer_unread h.unread rest
  simp only [Transfer.write, Sink.write, show Sink.offer t.sink rest = _ from ho, Written.ofOffer,
    Option.some.injEq] at hs
  subst hs
  refine ⟨h.unread, h.becomes, h.few, ?_, sound_conclude h.unread, ?_⟩
  · intro hreading
    simp only [Copy.conclude] at hreading
    split at hreading <;> cases hreading
  · rw [forecast_conclude]
    simp

lemma orphaned_step (h : Orphaned source t) (hs : t.step = some u) : Orphaned source u := by
  rw [Transfer.step] at hs
  split at hs
  · next hp => exact orphaned_read h hp hs
  · exact orphaned_write h hs
  · cases hs
    refine ⟨h.unread, h.becomes, h.few, ?_, fun _ => h.unread, ?_⟩
    · intro hreading
      cases hreading
    · simp [forecast]
  · cases hs

structure Abandoned (source : Source) (r : Relay) : Prop where
  unread : Unread r.queue
  few : (drawn source r.transfer.source).length ≤ 1
  orphaned : r.feeding = .copying → Orphaned source r.transfer

variable {r s : Relay}

lemma abandoned_feed (h : Abandoned source r) (hs : r.feed = some s) : Abandoned source s := by
  obtain ⟨t, feeding⟩ := r
  cases feeding with
  | copying =>
    have horphaned := h.orphaned rfl
    simp only [Relay.feed] at hs
    split at hs
    · obtain ⟨u, hu, rfl⟩ := Option.map_eq_some_iff.mp hs
      have hu := orphaned_step horphaned hu
      exact ⟨hu.unread, hu.few, fun _ => hu⟩
    · cases hs
      exact ⟨h.unread, h.few, fun hf => by cases hf⟩
    · cases hs
      refine ⟨?_, h.few, fun hf => by cases hf⟩
      show Unread t.sink.beginAbort
      rw [Queue.beginAbort]
      split <;> exact h.unread
  | aborting e =>
    simp only [Relay.feed] at hs
    split at hs
    · cases hs
    · next q hq =>
      cases hs
      refine ⟨?_, h.few, fun hf => by cases hf⟩
      have hunread : t.sink.reader = false := h.unread
      simp only [Relay.queue, Queue.tryAbort, hunread] at hq
      show Unread q
      split at hq <;> cases hq <;> exact hunread
  | stopped => cases hs

lemma stopped_of_stuck (h : Abandoned source r) (hs : r.feed = none) : r.feeding = .stopped := by
  obtain ⟨t, feeding⟩ := r
  cases feeding with
  | copying =>
    have horphaned := h.orphaned rfl
    simp only [Relay.feed] at hs
    split at hs
    · next hres =>
      rcases forecast_of_stop horphaned.sound (Option.map_eq_none_iff.mp hs) with
        ⟨-, hresult⟩ | ⟨rest, -, hunread, hwaits⟩
      · rw [hres] at hresult
        exact absurd hresult.symm horphaned.ends
      · obtain ⟨e, ho⟩ := offer_unread hunread rest
        change (t.sink.offer rest).1 = .waits at hwaits
        rw [ho] at hwaits
        cases hwaits
    · cases hs
    · cases hs
  | aborting e =>
    have hunread : t.sink.reader = false := h.unread
    simp only [Relay.feed, Relay.queue, Queue.tryAbort, hunread] at hs
    split at hs
    · next hq => split at hq <;> cases hq
    · cases hs
  | stopped => rfl

lemma orphaned_drop (hr : InStep ⟨t, .copying⟩) (hends : (promise ⟨t, .copying⟩).2 ≠ .silent) :
    Orphaned t.source { t with sink := t.sink.dropReader } := by
  obtain ⟨-, hsound, -⟩ := hr
  have hfew : drawn t.source t.source = [] := by rw [drawn, heard_refl, List.filter_nil]
  refine ⟨rfl, becomes_refl _, by simp [hfew], fun _ => hfew, ?_, ?_⟩
  · obtain ⟨⟨policy, phase, sourceEnded, copied⟩, source, q, meter⟩ := t
    cases phase with
    | reading | writing _ | closing _ => exact ⟨hsound.1, rfl⟩
    | done result => exact fun _ => rfl
  · intro hsilent
    apply hends
    have hsame : forecast { t with sink := t.sink.dropReader } = forecast t := by
      obtain ⟨⟨policy, phase, sourceEnded, copied⟩, source, q, meter⟩ := t
      cases phase <;> rfl
    rw [hsame] at hsilent
    simp only [promise, hsilent]
    rfl

lemma abandoned_drop (hr : InStep r) (hends : (promise r).2 ≠ .silent) :
    Abandoned r.transfer.source r.dropReader where
  unread := rfl
  few := by
    show (drawn r.transfer.source r.transfer.source).length ≤ 1
    rw [drawn, heard_refl]
    exact Nat.zero_le 1
  orphaned := by
    obtain ⟨t, feeding⟩ := r
    rintro ⟨⟩
    exact orphaned_drop hr hends

def feedings : Nat → Relay → Relay
  | 0, r => r
  | n + 1, r => feedings n (r.feed.getD r)

lemma abandoned_feedings (h : Abandoned source r) (n : Nat) : Abandoned source (feedings n r) := by
  induction n generalizing r with
  | zero => exact h
  | succ n ih =>
    apply ih
    cases hf : r.feed with
    | none => exact h
    | some s => exact abandoned_feed h hf

lemma feedings_stuck (hf : r.feed = none) (n : Nat) : feedings n r = r := by
  induction n with
  | zero => rfl
  | succ n ih => rw [feedings, hf, Option.getD_none, ih]

lemma stopped_feedings (h : Abandoned source r) {n : Nat} (hn : r.weight ≤ n) :
    (feedings n r).feeding = .stopped := by
  induction n generalizing r with
  | zero =>
    apply stopped_of_stuck h
    cases hf : r.feed with
    | none => rfl
    | some s =>
      have hlt := Relay.weight_feed hf
      omega
  | succ n ih =>
    cases hf : r.feed with
    | none =>
      rw [feedings_stuck hf]
      exact stopped_of_stuck h hf
    | some s =>
      have hlt := Relay.weight_feed hf
      rw [feedings, hf, Option.getD_some]
      exact ih (abandoned_feed h hf) (by omega)

lemma weight_dropReader_le (r : Relay) : r.dropReader.weight ≤ r.weight := by
  simp only [Relay.weight, Relay.dropReader, Relay.withQueue, Relay.queue, Queue.dropReader,
    Transfer.weight, List.length_nil]
  omega

theorem no_hidden_truncation (policy : Policy) (ahead : ByteArray) {source : Source} (ended : Bool)
    (meter : Meter) {bytes : ByteArray} {ending : Ending} (hg : Gives source bytes ending)
    (turns : List Turn) :
    let due := if ended then (ahead, .clean) else (ahead ++ bytes, toldOf ending)
    let x := Session.run { relay := .start policy ahead source ended meter } turns
    Begins due.1 (join x.held) ∧
    (∀ e, x.stop = some e → (join x.held, e) = due) ∧
    (due.2 ≠ .silent → ∀ rounds : List (List Turn), x.weight < rounds.length →
      (∀ round ∈ rounds, .feed ∈ round ∧ .read ∈ round) →
      (x.run rounds.flatten).stop = some due.2) ∧
    (due.2 ≠ .silent → x.stop = none → ∀ n,
      (drawn x.relay.transfer.source (feedings n x.relay.dropReader).transfer.source).length ≤ 1 ∧
      (x.weight ≤ n → (feedings n x.relay.dropReader).feeding = .stopped)) := by
  intro due x
  have hstart : InStep (.start policy ahead source ended meter) := inStep_start _ _ _ _ _
  have hdue : promise (.start policy ahead source ended meter) = due :=
    promise_of_start policy ahead ended meter hg
  have hx : Follows (.start policy ahead source ended meter) x := follows_run (follows_start _) turns
  refine ⟨?_, ?_, ?_, ?_⟩
  · rw [← hdue]
    exact begins_held hstart hx
  · intro e he
    rw [← hdue, told hstart hx he]
  · intro hends rounds hmany hboth
    have hstops := stop_of_rounds hstart (hdue ▸ hends) hx hmany hboth
    obtain ⟨e, he⟩ := Option.isSome_iff_exists.mp hstops
    rw [he, ← hdue, told hstart (follows_run hx rounds.flatten) he]
  · intro hends hstop n
    rw [Follows, hstop] at hx
    obtain ⟨hnow, hpromise⟩ := promise_reads hstart hx
    have habandoned : Abandoned x.relay.transfer.source x.relay.dropReader := by
      apply abandoned_drop hnow
      rwa [← hdue, hpromise] at hends
    refine ⟨(abandoned_feedings habandoned n).few, ?_⟩
    intro hn
    exact stopped_feedings habandoned (Nat.le_trans (weight_dropReader_le _) hn)

def reset : Source where
  items := [.data [1, 2].toByteArray, .data .empty, .data [3].toByteArray, .fault Queue.droppedFault]

theorem no_hidden_truncation_reset : ∃ n,
    let r := Relay.start {} [0].toByteArray reset false {}
    let x := Session.run { relay := r } (List.replicate n [Turn.read, .read, .feed]).flatten
    join x.held = [0, 1, 2, 3].toByteArray ∧
    x.stop = some (.fault ⟨.other, "IO error: Body receiver dropped", []⟩) ∧
    (feedings n r.dropReader).feeding = .stopped := by
  have hg : Gives reset [1, 2, 3].toByteArray (.fault Queue.droppedFault) := gives_of_outlook rfl
  obtain ⟨-, -, hstops, hdropped⟩ := no_hidden_truncation {} [0].toByteArray false {} hg []
  refine ⟨Relay.weight (.start {} [0].toByteArray reset false {}) + 1, ?_⟩
  intro r x
  have hstop : x.stop = some (.fault ⟨.other, "IO error: Body receiver dropped", []⟩) := by
    refine hstops (by simp [toldOf]) (List.replicate (r.weight + 1) [.read, .read, .feed]) ?_ ?_
    · simp [Session.run, Session.weight, r]
    · intro round hround
      rw [List.eq_of_mem_replicate hround]
      decide
  refine ⟨?_, hstop, ?_⟩
  · obtain ⟨-, htold, -, -⟩ := no_hidden_truncation {} [0].toByteArray false {} hg
      (List.replicate (r.weight + 1) [Turn.read, .read, .feed]).flatten
    exact (Prod.mk.inj (htold _ hstop)).1
  · exact ((hdropped (by simp [toldOf]) rfl _).2 (Nat.le_succ _))

end TwoHop.Proofs.Flow.Truncation
