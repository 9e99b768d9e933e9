import TwoHop.Proofs.Flow.Direction

/-! A tunnel between two connections: in whatever order its copies, its shutting down and the
requests to end it take their steps, it keeps the bytes in order and shuts each side once. -/

namespace TwoHop.Proofs.Flow.Tunnel

open TwoHop.Flow
open Content Intake Direction
open Proofs.Bytes

def turned (k manner : Outlet) : Outlet :=
  { manner with writes := k.writes, flushed := k.flushed, finished := k.finished }

inductive Move
  | step (s : SpliceStep)
  | turn (a b : Outlet)

def Move.apply (s : Splice) : Move → Splice
  | .step st => s.step st
  | .turn a b => { s with
      up := { s.up with sink := turned s.up.sink b }
      down := { s.down with sink := turned s.down.sink a } }

def run (s : Splice) (moves : List Move) : Splice := moves.foldl Move.apply s

def shut : Option Teardown → Nat × Nat
  | none | some .shutA => (0, 0)
  | some .shutB => (1, 0)
  | some .finished => (1, 1)

structure InOrder (aIn bIn : Source) (aOut bOut : Outlet) (ahead : ByteArray) (asked : Prop)
    (s : Splice) : Prop where
  up : Underway aIn bOut.data ahead s.up
  down : Underway bIn aOut.data .empty s.down
  shutA : s.down.sink.finished = aOut.finished + (shut s.teardown).1
  shutB : s.up.sink.finished = bOut.finished + (shut s.teardown).2
  gate : s.gate.fired = s.teardown.isSome
  running : s.outcome = none → s.teardown = none
  sideA : s.outcome = some (.ok .sideA) → ∃ n, s.up.result? = some (.ok n)
  sideB : s.outcome = some (.ok .sideB) → ∃ n, s.down.result? = some (.ok n)
  closed : s.outcome = some (.ok .closed) → asked
  requested : s.closeAsked = true → asked
  kept : asked → s.outcome = none → s.closeAsked = true

variable {aIn bIn : Source} {aOut bOut : Outlet} {ahead : ByteArray} {asked : Prop} {s : Splice}

lemma inOrder_start (aIn bIn : Source) (aOut bOut : Outlet) (ahead : ByteArray) (m n : Meter) :
    InOrder aIn bIn aOut bOut ahead False (.start aIn aOut bIn bOut ahead m n) where
  up := underway_start aIn ahead bOut m
  down := underway_start bIn .empty aOut n
  shutA := rfl
  shutB := by
    rw [Splice.start, Transfer.start]
    split <;> rfl
  gate := rfl
  running _ := rfl
  sideA h := by cases h
  sideB h := by cases h
  closed h := by cases h
  requested h := by cases h
  kept h := h.elim

lemma inOrder_ask (h : InOrder aIn bIn aOut bOut ahead asked s) :
    InOrder aIn bIn aOut bOut ahead True (s.step .ask) :=
  { h with
    closed := fun _ => trivial
    requested := fun _ => trivial
    kept := fun _ _ => rfl }

lemma inOrder_stopped (h : InOrder aIn bIn aOut bOut ahead asked s) {o : Except Fault SpliceEnd}
    (hA : o = .ok .sideA → ∃ n, s.up.result? = some (.ok n))
    (hB : o = .ok .sideB → ∃ n, s.down.result? = some (.ok n)) (hc : o = .ok .closed → asked) :
    InOrder aIn bIn aOut bOut ahead asked { s with outcome := some o } where
  up := h.up
  down := h.down
  shutA := h.shutA
  shutB := h.shutB
  gate := h.gate
  running ho := by cases ho
  sideA ho := hA (Option.some.inj ho)
  sideB ho := hB (Option.some.inj ho)
  closed ho := hc (Option.some.inj ho)
  requested := h.requested
  kept _ ho := by cases ho

lemma map_ok_iff {result : Except Fault Nat} {e d : SpliceEnd} :
    result.map (fun _ => e) = .ok d ↔ (∃ n, result = .ok n) ∧ e = d := by
  cases result <;> simp [Except.map]

lemma inOrder_up (h : InOrder aIn bIn aOut bOut ahead asked s) :
    InOrder aIn bIn aOut bOut ahead asked (s.step .up) := by
  simp only [Splice.step]
  split
  · next hout =>
    rw [Splice.stepUp]
    split
    · next result hresult =>
      apply inOrder_stopped h
      · intro ho
        obtain ⟨⟨n, rfl⟩, -⟩ := map_ok_iff.mp ho
        exact ⟨n, hresult⟩
      · intro ho
        cases (map_ok_iff.mp ho).2
      · intro ho
        cases (map_ok_iff.mp ho).2
    · cases hs : s.up.step with
      | none => exact h
      | some u =>
        obtain ⟨hu, hfinished⟩ := underway_step h.up hs
        refine { h with up := hu, shutB := hfinished.trans h.shutB, sideA := ?_ }
        intro ho
        rw [ho] at hout
        cases hout
  · exact h

lemma inOrder_down (h : InOrder aIn bIn aOut bOut ahead asked s) :
    InOrder aIn bIn aOut bOut ahead asked (s.step .down) := by
  simp only [Splice.step]
  split
  · next hout =>
    rw [Splice.stepDown]
    split
    · next result hresult =>
      apply inOrder_stopped h
      · intro ho
        cases (map_ok_iff.mp ho).2
      · intro ho
        obtain ⟨⟨n, rfl⟩, -⟩ := map_ok_iff.mp ho
        exact ⟨n, hresult⟩
      · intro ho
        cases (map_ok_iff.mp ho).2
    · cases hs : s.down.step with
      | none => exact h
      | some u =>
        obtain ⟨hu, hfinished⟩ := underway_step h.down hs
        refine { h with down := hu, shutA := hfinished.trans h.shutA, sideB := ?_ }
        intro ho
        rw [ho] at hout
        cases hout
  · exact h

lemma inOrder_heed (h : InOrder aIn bIn aOut bOut ahead asked s) :
    InOrder aIn bIn aOut bOut ahead asked (s.step .heed) := by
  simp only [Splice.step]
  split
  · rw [Splice.heed]
    split
    · next hasked =>
      have hstopped : InOrder aIn bIn aOut bOut ahead asked { s with outcome := some (.ok .closed) } :=
        inOrder_stopped h (fun ho => by cases ho) (fun ho => by cases ho) fun _ => h.requested hasked
      refine { hstopped with requested := ?_, kept := ?_ }
      · intro hc
        cases hc
      · intro _ ho
        cases ho
    · exact h
  · exact h

lemma inOrder_teardown (h : InOrder aIn bIn aOut bOut ahead asked s) :
    InOrder aIn bIn aOut bOut ahead asked (s.step .teardown) := by
  simp only [Splice.step]
  split
  · next hout =>
    have hrunning {t : Option Teardown} : s.outcome = none → t = none := by
      intro ho
      rw [ho] at hout
      cases hout
    have hgate := h.gate
    have hshutA := h.shutA
    have hshutB := h.shutB
    cases ht : s.teardown with
    | none =>
      rw [ht] at hgate hshutA hshutB
      have hfirst : s.gate.tryFire = (true, ⟨true⟩) := by simp [Gate.tryFire, hgate]
      simp only [Splice.stepTeardown, ht, hfirst]
      exact { h with shutA := hshutA, shutB := hshutB, gate := rfl, running := hrunning }
    | some stage =>
      rw [ht] at hgate hshutA hshutB
      cases stage with
      | shutA =>
        simp only [Splice.stepTeardown, ht]
        refine { h with
          down := underway_sink h.down rfl, shutA := ?_, shutB := hshutB, gate := hgate
          running := hrunning }
        exact congrArg (· + 1) hshutA
      | shutB =>
        simp only [Splice.stepTeardown, ht]
        refine { h with
          up := underway_sink h.up rfl, shutA := hshutA, shutB := ?_, gate := hgate
          running := hrunning }
        exact congrArg (· + 1) hshutB
      | finished =>
        simp only [Splice.stepTeardown, ht]
        exact h
  · exact h

lemma inOrder_turn (h : InOrder aIn bIn aOut bOut ahead asked s) (a b : Outlet) :
    InOrder aIn bIn aOut bOut ahead asked (Move.apply s (.turn a b)) :=
  { h with
    up := underway_sink h.up rfl
    down := underway_sink h.down rfl }

lemma InOrder.congr {asked' : Prop} (h : InOrder aIn bIn aOut bOut ahead asked s)
    (he : asked ↔ asked') : InOrder aIn bIn aOut bOut ahead asked' s := by
  rwa [← propext he]

lemma inOrder_apply (h : InOrder aIn bIn aOut bOut ahead asked s) (m : Move) :
    InOrder aIn bIn aOut bOut ahead (asked ∨ m = .step .ask) (m.apply s) := by
  cases m with
  | turn a b => exact (inOrder_turn h a b).congr (by simp)
  | step st =>
    cases st with
    | ask => exact (inOrder_ask h).congr (by simp)
    | up => exact (inOrder_up h).congr (by simp)
    | down => exact (inOrder_down h).congr (by simp)
    | heed => exact (inOrder_heed h).congr (by simp)
    | teardown => exact (inOrder_teardown h).congr (by simp)

lemma inOrder_run (h : InOrder aIn bIn aOut bOut ahead asked s) (moves : List Move) :
    InOrder aIn bIn aOut bOut ahead (asked ∨ .step .ask ∈ moves) (run s moves) := by
  induction moves generalizing s asked with
  | nil => exact h.congr (by simp)
  | cons m moves ih =>
    refine (ih (inOrder_apply h m)).congr ?_
    rw [List.mem_cons, or_assoc, eq_comm]

lemma allButLast_tail {pieces : List ByteArray} {taken : ByteArray}
    (h : AllButLast (.empty :: pieces) taken) : AllButLast pieces taken := by
  rcases h with rfl | ⟨whole, part, rest, hpieces, rfl⟩
  · exact Or.inl (by simp)
  · cases whole with
    | nil =>
      obtain ⟨hempty, rfl⟩ := List.cons.inj hpieces
      obtain ⟨rfl, -⟩ := ByteArray.append_eq_empty_iff.mp hempty.symm
      exact Or.inl rfl
    | cons first whole =>
      obtain ⟨rfl, rfl⟩ := List.cons.inj hpieces
      exact Or.inr ⟨whole, part, rest, rfl, by simp⟩

lemma arrived {source : Source} {before : ByteArray} {t : Transfer Outlet}
    (h : Underway source before ahead t) : ∃ taken, t.sink.data = before ++ taken ∧
      Begins (ahead ++ join (heard source t.source)) taken ∧
      AllButLast (ahead :: heard source t.source) taken := by
  obtain ⟨taken, hdata, haccounts⟩ := h.accounts
  have hlast := haccounts.allButLast
  exact ⟨taken, hdata, begins_of_allButLast hlast, hlast⟩

lemma begins_of_underway {source : Source} {before sent : ByteArray} {ending : Ending}
    {t : Transfer Outlet} (h : Underway source before ahead t) (hg : Gives source sent ending) :
    ∃ taken, t.sink.data = before ++ taken ∧ Begins (ahead ++ sent) taken := by
  obtain ⟨taken, hdata, haccounts⟩ := h.accounts
  have hread := haccounts.outlook_begins
  rw [outlook_of_gives hg] at hread
  exact ⟨taken, hdata, (hread.append_left ahead).trans (begins_of_allButLast haccounts.allButLast)⟩

lemma inOrder_of_start (aIn bIn : Source) (aOut bOut : Outlet) (ahead : ByteArray) (m n : Meter)
    (moves : List Move) : InOrder aIn bIn aOut bOut ahead (.step .ask ∈ moves)
      (run (.start aIn aOut bIn bOut ahead m n) moves) :=
  (inOrder_run (inOrder_start aIn bIn aOut bOut ahead m n) moves).congr (by simp)

lemma delivered {source : Source} {before : ByteArray} {t : Transfer Outlet} {n : Nat}
    (h : Underway source before ahead t) (hr : t.result? = some (.ok n)) :
    ∃ sent, Gives source sent .clean ∧ t.sink.data = before ++ (ahead ++ sent) := by
  obtain ⟨taken, hdata, haccounts⟩ := h.accounts
  rw [Transfer.result?, Copy.result?] at hr
  split at hr
  · next hp =>
    cases hr
    simp only [Accounts, hp] at haccounts
    obtain ⟨rfl, houtlook⟩ := haccounts
    have hgives := gives_outlook source
    rw [houtlook] at hgives
    exact ⟨_, hgives, hdata⟩
  · cases hr

lemma outcome_of_result {o : Except Fault SpliceEnd} (h : s.result? = some o) :
    s.teardown = some .finished ∧ s.outcome = some o := by
  rw [Splice.result?] at h
  split at h
  · next ht => exact ⟨ht, h⟩
  · cases h

lemma torn_down {o : Except Fault SpliceEnd} (h : s.outcome = some o) :
    (run s (List.replicate 3 (.step .teardown))).result? = some o := by
  obtain ⟨up, down, closeAsked, outcome, ⟨fired⟩, teardown⟩ := s
  cases h
  cases teardown with
  | none => cases fired <;> rfl
  | some stage => cases stage <;> rfl

structure Brings (aOut bOut : Outlet) (forA forB : ByteArray × Ending) (s : Splice) : Prop where
  toB : ∃ taken, s.up.sink.data = bOut.data ++ taken ∧ Begins forB.1 taken
  toA : ∃ taken, s.down.sink.data = aOut.data ++ taken ∧ Begins forA.1 taken
  allToB : s.result? = some (.ok .sideA) → forB.2 = .clean ∧ s.up.sink.data = bOut.data ++ forB.1
  allToA : s.result? = some (.ok .sideB) → forA.2 = .clean ∧ s.down.sink.data = aOut.data ++ forA.1

lemma brings_run {a b : ByteArray} {endA endB : Ending} (ha : Gives aIn a endA)
    (hb : Gives bIn b endB) (aOut bOut : Outlet) (ahead : ByteArray) (m n : Meter)
    (moves : List Move) : Brings aOut bOut (b, endB) (ahead ++ a, endA)
      (run (.start aIn aOut bIn bOut ahead m n) moves) := by
  have h := inOrder_of_start aIn bIn aOut bOut ahead m n moves
  refine ⟨begins_of_underway h.up ha, ?_, ?_, ?_⟩
  · have hdown := begins_of_underway h.down hb
    rwa [ByteArray.empty_append] at hdown
  · intro hr
    obtain ⟨k, hk⟩ := h.sideA (outcome_of_result hr).2
    obtain ⟨sent, hgives, hdata⟩ := delivered h.up hk
    obtain ⟨rfl, rfl⟩ := Prod.mk.inj ((outlook_of_gives ha).symm.trans (outlook_of_gives hgives))
    exact ⟨rfl, hdata⟩
  · intro hr
    obtain ⟨k, hk⟩ := h.sideB (outcome_of_result hr).2
    obtain ⟨sent, hgives, hdata⟩ := delivered h.down hk
    obtain ⟨rfl, rfl⟩ := Prod.mk.inj ((outlook_of_gives hb).symm.trans (outlook_of_gives hgives))
    rw [ByteArray.empty_append] at hdata
    exact ⟨rfl, hdata⟩

theorem tunnel_safety (aIn bIn : Source) (aOut bOut : Outlet) (ahead : ByteArray) (m n : Meter)
    (moves : List Move) :
    let s := run (.start aIn aOut bIn bOut ahead m n) moves
    (∃ toB, s.up.sink.data = bOut.data ++ toB ∧
      Begins (ahead ++ join (heard aIn s.up.source)) toB ∧
      AllButLast (ahead :: heard aIn s.up.source) toB) ∧
    (∃ toA, s.down.sink.data = aOut.data ++ toA ∧
      Begins (join (heard bIn s.down.source)) toA ∧ AllButLast (heard bIn s.down.source) toA) ∧
    (s.outcome = none →
      s.down.sink.finished = aOut.finished ∧ s.up.sink.finished = bOut.finished) ∧
    (∀ o, s.outcome = some o → (run s (List.replicate 3 (.step .teardown))).result? = some o) ∧
    (∀ o, s.result? = some o → s.down.sink.finished = aOut.finished + 1 ∧
      s.up.sink.finished = bOut.finished + 1 ∧ s.isClosed = true) ∧
    (s.result? = some (.ok .sideA) → ∃ sent, Gives aIn sent .clean ∧
      s.up.sink.data = bOut.data ++ (ahead ++ sent)) ∧
    (s.result? = some (.ok .sideB) → ∃ sent, Gives bIn sent .clean ∧
      s.down.sink.data = aOut.data ++ sent) ∧
    (s.result? = some (.ok .closed) → .step .ask ∈ moves) ∧
    (.step .ask ∈ moves → s.outcome = none → (s.step .heed).outcome = some (.ok .closed)) := by
  intro s
  have h : InOrder aIn bIn aOut bOut ahead (.step .ask ∈ moves) s :=
    inOrder_of_start aIn bIn aOut bOut ahead m n moves
  refine ⟨arrived h.up, ?_, ?_, fun o ho => torn_down ho, ?_, ?_, ?_, ?_, ?_⟩
  · obtain ⟨toA, hdata, hbegins, hlast⟩ := arrived h.down
    rw [ByteArray.empty_append] at hbegins
    exact ⟨toA, hdata, hbegins, allButLast_tail hlast⟩
  · intro ho
    have hA := h.shutA
    have hB := h.shutB
    rw [h.running ho] at hA hB
    exact ⟨hA, hB⟩
  · intro o hr
    obtain ⟨ht, -⟩ := outcome_of_result hr
    have hA := h.shutA
    have hB := h.shutB
    have hgate := h.gate
    rw [ht] at hA hB hgate
    exact ⟨hA, hB, hgate⟩
  · intro hr
    obtain ⟨k, hk⟩ := h.sideA (outcome_of_result hr).2
    exact delivered h.up hk
  · intro hr
    obtain ⟨k, hk⟩ := h.sideB (outcome_of_result hr).2
    obtain ⟨sent, hgives, hdata⟩ := delivered h.down hk
    rw [ByteArray.empty_append] at hdata
    exact ⟨sent, hgives, hdata⟩
  · intro hr
    exact h.closed (outcome_of_result hr).2
  · intro hasked ho
    simp [Splice.step, Splice.heed, ho, h.kept hasked ho]

end TwoHop.Proofs.Flow.Tunnel
