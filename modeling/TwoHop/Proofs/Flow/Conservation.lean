import TwoHop.Flow.Handover
import TwoHop.Proofs.Flow.Relaying
import TwoHop.Proofs.Flow.Scanning

/-! No byte of a stream is lost, doubled or moved between its source and where it is handed on. -/

namespace TwoHop.Proofs.Flow.Conservation

open TwoHop.Frame TwoHop.Flow
open Content Delivery Relaying Scanning Scanner.Fragmentation
open Proofs.Bytes (join eq_empty_of_isEmpty)

structure Drains (h : Handover) (rest : ByteArray) (ending : Ending) : Prop where
  started : ∀ {κ : Type} (policy : Policy) (sink : κ) (meter : Meter),
    ∃ t, (h.drain policy sink meter).1 = .ok t
  delivers : ∀ {κ : Type} [Sink κ] {P : κ → Prop} {data : κ → ByteArray}, Accepting P data →
    ∀ (policy : Policy) (sink : κ) (meter : Meter) (t : Transfer κ), P sink →
      (h.drain policy sink meter).1 = .ok t →
      data t.run.sink = data sink ++ rest ∧
      t.run.result? = (match ending with
        | .clean => some (.ok rest.size)
        | .fault e => some (.error (.io e))
        | .silent => none) ∧
      (h.sourceEnded = true → t.run.source = t.source)

def Yields (h : Handover) (rest : ByteArray) (ending : Ending) : Prop :=
  ∃ p unread, h.take.1 = .ok p ∧ Gives p.source unread ending ∧ p.remaining ++ unread = rest

structure Carries (b : Body) (rest : ByteArray) (ending : Ending) : Prop where
  bytes : join b.contents.chunks.toList = rest
  fault : b.contents.fault = (match ending with
    | .fault e => some (Relay.shownFault (.io e))
    | _ => none)
  steps : ∀ r, b = .relayed r → ∀ chunks s, Reads r chunks s → ∃ left, rest = join chunks ++ left ∧
    (s.read.1 = .ended → left = .empty ∧ ending = .clean) ∧
    (∀ e, s.read.1 = .fault e → left = .empty ∧
      ∃ cause, ending = .fault cause ∧ e = Relay.shownFault (.io cause)) ∧
    (s.read.1 = .waits → s.feed = none → left = .empty ∧ ending = .silent)

lemma reading_eq (rest : ByteArray) (ending : Ending) :
    reading 0 (rest, ending) = match ending with
      | .clean => some (.ok rest.size)
      | .fault e => some (.error (.io e))
      | .silent => none := by
  cases ending <;> simp [reading]

lemma shown_reading (rest : ByteArray) (ending : Ending) :
    shown (reading 0 (rest, ending)) = match ending with
      | .fault e => .fault (Relay.shownFault (.io e))
      | other => other := by
  cases ending <;> rfl

lemma toCopy_make (remaining : ByteArray) (source : Source) :
    toCopy remaining source source.isExhausted =
      (remaining ++ (outlook source).1, (outlook source).2) := by
  cases h : source.isExhausted with
  | true => simp [toCopy, outlook_of_exhausted h]
  | false => simp [toCopy]

lemma drain_make {κ : Type} (remaining : ByteArray) (source : Source) (policy : Policy) (sink : κ)
    (meter : Meter) : ((Handover.make remaining source).drain policy sink meter).1 =
      .ok (.start policy remaining source source.isExhausted sink meter) := rfl

lemma start_sourceEnded {κ : Type} (policy : Policy) (ahead : ByteArray) (source : Source)
    (ended : Bool) (sink : κ) (meter : Meter) :
    (Transfer.start policy ahead source ended sink meter).copy.sourceEnded = ended := by
  rw [Transfer.start]
  split
  · rw [resume_sourceEnded]
  · rfl

lemma drains_make {remaining rest : ByteArray} {source : Source} {ending : Ending}
    (ho : (remaining ++ (outlook source).1, (outlook source).2) = (rest, ending)) :
    Drains (.make remaining source) rest ending where
  started := fun _ _ _ => ⟨_, rfl⟩
  delivers := by
    intro κ _ P data hA policy sink meter t hk ht
    rw [drain_make] at ht
    cases ht
    have hs : Sound P (.start policy remaining source source.isExhausted sink meter) :=
      sound_start hk
    obtain ⟨hdata, hresult, huntouched⟩ := run_delivers hA hs
    rw [forecast_start, toCopy_make, ho] at hdata hresult
    refine ⟨?_, by rw [hresult, reading_eq], ?_⟩
    · rw [hdata]
      rw [Transfer.start]
      split <;> rfl
    · intro he
      exact huntouched (by rwa [start_sourceEnded])

lemma yields_make {remaining rest : ByteArray} {source : Source} {ending : Ending}
    (ho : (remaining ++ (outlook source).1, (outlook source).2) = (rest, ending)) :
    Yields (.make remaining source) rest ending := by
  obtain ⟨rfl, rfl⟩ := Prod.mk.inj ho
  exact ⟨⟨remaining, source, source.isExhausted⟩, (outlook source).1, rfl, gives_outlook source, rfl⟩

lemma carries_relayed {r : Relay} {rest : ByteArray} {ending : Ending} (hr : InStep r)
    (hp : promise r = (rest, match ending with
      | .fault e => .fault (Relay.shownFault (.io e))
      | other => other)) : Carries (.relayed r) rest ending where
  bytes := by
    have h := (collect_promise hr {}).1
    rw [hp] at h
    exact h.trans (ByteArray.empty_append)
  fault := by
    have h := (collect_promise hr {}).2 rfl
    rw [hp] at h
    apply h.trans
    cases ending <;> rfl
  steps := by
    rintro _ ⟨⟩ chunks s hreads
    obtain ⟨hs, he⟩ := promise_reads hr hreads
    rw [hp] at he
    obtain ⟨hrest, hend⟩ := Prod.mk.inj he
    have ha := answered_read hs
    generalize s.read = read at ha ⊢
    obtain ⟨answer, t⟩ := read
    refine ⟨(promise s).1, hrest, ?_, ?_, ?_⟩
    · rintro ⟨⟩
      have hclean : promise s = (.empty, .clean) := ha
      rw [hclean] at hend ⊢
      refine ⟨rfl, ?_⟩
      cases ending with
      | clean => rfl
      | fault e => cases hend
      | silent => cases hend
    · rintro e ⟨⟩
      have hfault : promise s = (.empty, .fault e) := ha
      rw [hfault] at hend ⊢
      refine ⟨rfl, ?_⟩
      cases ending with
      | clean => cases hend
      | fault cause =>
        cases hend
        exact ⟨cause, rfl, rfl⟩
      | silent => cases hend
    · rintro ⟨⟩ hfeed
      have hsilent : promise s = (.empty, .silent) := ha hfeed
      rw [hsilent] at hend ⊢
      refine ⟨rfl, ?_⟩
      cases ending with
      | clean => cases hend
      | fault e => cases hend
      | silent => rfl

lemma carries_empty : Carries .empty .empty .clean where
  bytes := rfl
  fault := rfl
  steps := by
    intro r hr
    cases hr

lemma body_make (remaining : ByteArray) (source : Source) (policy : Policy) (meter : Meter) :
    ((Handover.make remaining source).body policy meter).1 =
      .ok (if source.isExhausted && remaining.isEmpty then .empty
        else .relayed (.start policy remaining source source.isExhausted meter)) := rfl

lemma carries_make {remaining rest : ByteArray} {source : Source} {ending : Ending}
    (ho : (remaining ++ (outlook source).1, (outlook source).2) = (rest, ending)) (policy : Policy)
    (meter : Meter) : ∃ b, ((Handover.make remaining source).body policy meter).1 = .ok b ∧
      Carries b rest ending := by
  rw [body_make]
  refine ⟨_, rfl, ?_⟩
  by_cases h : (source.isExhausted && remaining.isEmpty) = true
  · obtain ⟨he, hr⟩ := Bool.and_eq_true_iff.mp h
    rw [eq_empty_of_isEmpty hr, outlook_of_exhausted he] at ho
    cases ho
    rw [if_pos h]
    exact carries_empty
  · rw [if_neg h]
    apply carries_relayed (inStep_start _ _ _ _ _)
    rw [promise_start, toCopy_make, ho, shown_reading]

lemma outlet_offer {k : Outlet} (h : k.room = none) (b : ByteArray) :
    k.offer b = (.took (min b.size (k.most.getD b.size)),
      { k with writes := k.writes.push (b.extract 0 (min b.size (k.most.getD b.size))) }) := by
  obtain ⟨room, most, fault, finishFails, writes, flushed, finished⟩ := k
  cases h
  rfl

lemma accepting_outlet : Accepting (fun k : Outlet => k.room = none ∧ k.most ≠ some 0 ∧
    k.finishFails = false) Outlet.data where
  offer := by
    rintro k b ⟨hroom, hmost, hfinish⟩ hb
    refine Or.inr ⟨_, _, outlet_offer hroom b, ?_, ⟨hroom, hmost, hfinish⟩, ?_⟩
    · cases hm : k.most with
      | none => simpa using hb
      | some n =>
        rw [hm] at hmost
        have hn : 0 < n := Nat.pos_of_ne_zero fun h => hmost (congrArg some h)
        exact Nat.lt_min.mpr ⟨hb, hn⟩
    · simp only [Outlet.data, Array.foldl_push]
  finish := by
    rintro k ⟨-, -, hfinish⟩
    refine ⟨?_, rfl⟩
    show k.finish.1 = _
    simp [Outlet.finish, hfinish]
  prompt := by
    rintro k b ⟨hroom, -, -⟩ -
    show (k.offer b).1 ≠ _
    rw [outlet_offer hroom]
    exact fun h => nomatch h

theorem byte_conservation {source : Source} {bytes body : ByteArray} {ending : Ending}
    {h : Handover} (hg : Gives source bytes ending) (hs : scan source = .found body h) :
    ∃ rest, Legal body.size ∧ bytes = header body.size ++ body ++ rest ∧
      Drains h rest ending ∧ Yields h rest ending ∧
      ∀ policy meter, ∃ b, (h.body policy meter).1 = .ok b ∧ Carries b rest ending := by
  have he := explained_scan source
  rw [hs, outlook_of_gives hg] at he
  obtain ⟨remaining, after, rfl, hv, hend⟩ := he
  obtain ⟨hl, hbytes⟩ := frame_of_verdict hv
  have ho : (remaining ++ (outlook after).1, (outlook after).2) =
      (remaining ++ (outlook after).1, ending) := by rw [hend]
  exact ⟨_, hl, hbytes, drains_make ho, yields_make ho, carries_make ho⟩

def cutOff : Source where
  items := [.data [0xDE, 0xAD, 0xBE, 0xEF, 0, 0, 0, 5, 104].toByteArray,
    .data [101, 108, 108, 111, 1, 2].toByteArray, .data [3].toByteArray, .fault Queue.droppedFault]

theorem byte_conservation_cutOff : ∃ body h rest t, scan cutOff = .found body h ∧
    (outlook cutOff).1 = header body.size ++ body ++ rest ∧
    (h.drain {} ({} : Outlet) {}).1 = .ok t ∧ t.run.sink.data = rest ∧
    t.run.result? = some (.error (.io Queue.droppedFault)) := by
  obtain ⟨f, hv⟩ : ∃ f, verdict (outlook cutOff).1 = some (.ok f) := ⟨_, by rfl⟩
  obtain ⟨remaining, after, hs, -⟩ := scan_of_verdict hv
  obtain ⟨rest, -, hbytes, hdrains, -⟩ := byte_conservation (gives_outlook cutOff) hs
  obtain ⟨t, ht⟩ := hdrains.started {} ({} : Outlet) {}
  obtain ⟨hdata, hresult, -⟩ :=
    hdrains.delivers accepting_outlet {} {} {} t ⟨rfl, by simp, rfl⟩ ht
  refine ⟨f.body, _, rest, t, hs, hbytes, ht, ?_, hresult⟩
  rw [hdata]
  exact ByteArray.empty_append

end TwoHop.Proofs.Flow.Conservation
