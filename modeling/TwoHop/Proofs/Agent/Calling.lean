import TwoHop.Agent.Exchange
import TwoHop.Replier
import TwoHop.Proofs.Flow.Conservation
import TwoHop.Proofs.Flow.Direction

namespace TwoHop.Proofs.Agent.Calling

open TwoHop.Frame TwoHop.Flow
open Flow.Conservation Flow.Direction
open Scanner.Heading
open Proofs.Bytes

section Machine

variable {κ : Type} [Sink κ]

lemma writeAll_of_more {k l : κ} {rest left : ByteArray} (h : Sink.write k rest = (.more left, l)) :
    Sink.writeAll k rest = Sink.writeAll l left := by
  rw [Sink.writeAll]
  split <;> simp_all

lemma writeAll_of_stop {k : κ} {rest : ByteArray}
    (h : ∀ left l, Sink.write k rest ≠ (.more left, l)) :
    Sink.writeAll k rest = Sink.write k rest := by
  rw [Sink.writeAll]
  split
  · next left l hw => exact absurd hw (h left l)
  · rfl

lemma run_of_none {c : Call} {gate : Gate} {k : κ} (h : c.step gate k = none) :
    c.run gate k = (c, gate, k) := by
  rw [Call.run]
  split <;> simp_all

lemma run_of_some {c d : Call} {gate gate' : Gate} {k l : κ} (h : c.step gate k = some (d, gate', l)) :
    c.run gate k = d.run gate' l := by
  rw [Call.run]
  split <;> simp_all

lemma run_done {c : Call} {result : Except IoError Bool} (h : c.phase = .done result) (gate : Gate)
    (k : κ) : c.run gate k = (c, gate, k) := by
  apply run_of_none
  simp [Call.step, h]

lemma run_crashed {c : Call} {crash : Crash} (h : c.phase = .crashed crash) (gate : Gate) (k : κ) :
    c.run gate k = (c, gate, k) := by
  apply run_of_none
  simp [Call.step, h]

lemma run_writing_all {c : Call} {gate : Gate} {k l : κ} {rest : ByteArray}
    (h : Sink.writeAll k rest = (.all, l)) :
    { c with phase := .writing rest }.run gate k = { c with phase := .flushing }.run gate l := by
  induction k, rest using Sink.writeAll.induct with
  | case1 k rest left l' hw ih =>
    rw [writeAll_of_more hw] at h
    rw [run_of_some (by simp only [Call.step, hw]; rfl), ih h]
  | case2 k rest hw =>
    rw [writeAll_of_stop hw] at h
    exact run_of_some (by simp only [Call.step, h])

lemma run_writing_failed {c : Call} {gate : Gate} {k l : κ} {rest : ByteArray} {e : IoError}
    (h : Sink.writeAll k rest = (.failed e, l)) :
    { c with phase := .writing rest }.run gate k = ({ c with phase := .done (.error e) }, gate, l) := by
  induction k, rest using Sink.writeAll.induct with
  | case1 k rest left l' hw ih =>
    rw [writeAll_of_more hw] at h
    rw [run_of_some (by simp only [Call.step, hw]; rfl), ih h]
  | case2 k rest hw =>
    rw [writeAll_of_stop hw] at h
    rw [run_of_some (by simp only [Call.step, h]; rfl)]
    exact run_done rfl _ _

end Machine

lemma writeAll_records (k : Outlet) (rest : ByteArray) :
    ∃ answer l, Sink.writeAll k rest = (answer, l) ∧ l.finished = k.finished ∧
      ((answer = .all ∧ l.data = k.data ++ rest) ∨
        ∃ e part, answer = .failed e ∧ Begins rest part ∧ l.data = k.data ++ part) := by
  induction k, rest using Sink.writeAll.induct with
  | case1 k rest left l hw ih =>
    have hrecorded := recorded_write k rest
    rw [hw] at hrecorded
    obtain ⟨hfinished, part, rfl, hdata⟩ := hrecorded
    obtain ⟨answer, m, hm, hfinished', hrest⟩ := ih
    refine ⟨answer, m, (writeAll_of_more hw).trans hm, hfinished'.trans hfinished, ?_⟩
    rw [hdata] at hrest
    rcases hrest with ⟨rfl, hm'⟩ | ⟨e, more, rfl, hmore, hm'⟩
    · exact Or.inl ⟨rfl, by rw [hm', ByteArray.append_assoc]⟩
    · refine Or.inr ⟨e, part ++ more, rfl, hmore.append_left part, ?_⟩
      rw [hm', ByteArray.append_assoc]
  | case2 k rest hw =>
    have hrecorded := recorded_write k rest
    rw [writeAll_of_stop hw]
    generalize Sink.write k rest = written at hrecorded hw
    obtain ⟨answer, l⟩ := written
    refine ⟨answer, l, rfl, ?_⟩
    cases answer with
    | waits => exact hrecorded.elim
    | all => exact ⟨hrecorded.1, Or.inl ⟨rfl, hrecorded.2⟩⟩
    | more left => exact absurd rfl (hw left l)
    | failed e =>
      refine ⟨hrecorded.1, Or.inr ⟨e, .empty, rfl, ⟨rest, by simp⟩, ?_⟩⟩
      rw [hrecorded.2, ByteArray.append_empty]

lemma data_of_writeAll {k l : Outlet} {rest : ByteArray} (h : Sink.writeAll k rest = (.all, l)) :
    l.data = k.data ++ rest ∧ l.finished = k.finished := by
  obtain ⟨answer, m, hm, hfinished, hrest⟩ := writeAll_records k rest
  rw [h] at hm
  cases hm
  rcases hrest with ⟨-, hdata⟩ | ⟨e, part, he, -⟩
  · exact ⟨hdata, hfinished⟩
  · cases he

def Willing (k : Outlet) : Prop := k.room = none ∧ k.most ≠ some 0

lemma write_willing {k : Outlet} (h : Willing k) (rest : ByteArray) : ∃ l, Willing l ∧
    (Sink.write k rest = (.all, l) ∨ ∃ left, Sink.write k rest = (.more left, l)) := by
  obtain ⟨hroom, hmost⟩ := h
  refine ⟨(k.offer rest).2, ?_, ?_⟩
  · rw [outlet_offer hroom]
    exact ⟨hroom, hmost⟩
  · rw [Sink.write, show Sink.offer k rest = k.offer rest from rfl,
      outlet_offer hroom]
    dsimp only [Written.ofOffer]
    by_cases hall : rest.size ≤ min rest.size (k.most.getD rest.size)
    · rw [if_pos hall]
      exact Or.inl rfl
    · have hnone : min rest.size (k.most.getD rest.size) ≠ 0 := by
        intro hmin
        cases hm : k.most with
        | none => simp [hm] at hall
        | some n =>
          simp only [hm, Option.getD_some, ne_eq, Option.some.injEq] at hmin hmost hall
          omega
      rw [if_neg hall, if_neg hnone]
      exact Or.inr ⟨_, rfl⟩

lemma writeAll_willing {k : Outlet} (h : Willing k) (rest : ByteArray) :
    ∃ l, Sink.writeAll k rest = (.all, l) ∧ Willing l := by
  induction k, rest using Sink.writeAll.induct with
  | case1 k rest left l hw ih =>
    obtain ⟨m, hm, hall | ⟨left', hmore⟩⟩ := write_willing h rest
    · rw [hw] at hall
      cases hall
    · rw [hw] at hmore
      cases hmore
      rw [writeAll_of_more hw]
      exact ih hm
  | case2 k rest hw =>
    obtain ⟨l, hl, hall | ⟨left, hmore⟩⟩ := write_willing h rest
    · exact ⟨l, (writeAll_of_stop hw).trans hall, hl⟩
    · exact absurd hmore (hw left l)

def hungUp (closes : Bool) (k : Outlet) : Outlet :=
  if closes then k.flush.2.finish.2 else k.flush.2

lemma hungUp_data (closes : Bool) (k : Outlet) : (hungUp closes k).data = k.data := by
  cases closes <;> rfl

section Call

variable {c : Call} {k l : Outlet}

lemma run_start (hp : c.phase = .start) (hl : Legal c.verdict.encode.size) :
    c.run {} k = { c with phase := .writing (framed c.verdict.encode) }.run ⟨true⟩ k := by
  apply run_of_some
  simp only [Call.step, hp, Gate.tryFire, Frame.encode, if_pos hl]
  rfl

lemma run_of_sent (hp : c.phase = .start) (hl : Legal c.verdict.encode.size)
    (h : Sink.writeAll k (framed c.verdict.encode) = (.all, l)) :
    (c.run {} k).2.2 = hungUp c.closes l ∧
      (c.run {} k).1.result? = some (if c.closes then l.flush.2.finish.1.map fun _ => true else .ok true) := by
  rw [run_start hp hl, run_writing_all h]
  obtain ⟨verdict, closes, phase⟩ := c
  have hflush : (⟨verdict, closes, .flushing⟩ : Call).step ⟨true⟩ l =
      some ((⟨verdict, closes, .flushing⟩ : Call).after true, ⟨true⟩, l.flush.2) := rfl
  rw [run_of_some hflush]
  cases closes with
  | false =>
    have hdone : ((⟨verdict, false, .flushing⟩ : Call).after true).phase = .done (.ok true) := rfl
    rw [run_done hdone]
    exact ⟨rfl, rfl⟩
  | true =>
    have hclose : ((⟨verdict, true, .flushing⟩ : Call).after true).step ⟨true⟩ l.flush.2 =
        some (⟨verdict, true, .done (l.flush.2.finish.1.map fun _ => true)⟩, ⟨true⟩,
          l.flush.2.finish.2) := rfl
    rw [run_of_some hclose, run_done rfl]
    exact ⟨rfl, rfl⟩

lemma run_of_unsent (hp : c.phase = .start) (hl : Legal c.verdict.encode.size) {e : IoError}
    (h : Sink.writeAll k (framed c.verdict.encode) = (.failed e, l)) :
    (c.run {} k).2.2 = l ∧ (c.run {} k).1.result? = some (.error e) := by
  rw [run_start hp hl, run_writing_failed h]
  exact ⟨rfl, rfl⟩

lemma run_crash (hp : c.phase = .start) (hl : ¬ Legal c.verdict.encode.size) : c.run {} k =
    ({ c with phase := .crashed (.frameBody c.verdict.encode.size) }, ⟨true⟩, k) := by
  have hcrash : c.step {} k =
      some ({ c with phase := .crashed (.frameBody c.verdict.encode.size) }, ⟨true⟩, k) := by
    simp only [Call.step, hp, Gate.tryFire, Frame.encode, if_neg hl]
    rfl
  rw [run_of_some hcrash, run_crashed rfl]

lemma run_of_illegal (hp : c.phase = .start) (hl : ¬ Legal c.verdict.encode.size) :
    (c.run {} k).2.2 = k ∧ (c.run {} k).1.result? = none := by
  rw [run_crash hp hl]
  exact ⟨rfl, rfl⟩

lemma call_records (hp : c.phase = .start) (k : Outlet) :
    ∃ written, (c.run {} k).2.2.data = k.data ++ written ∧ Begins (framed c.verdict.encode) written ∧
      (¬ Legal c.verdict.encode.size → written = .empty) := by
  by_cases hl : Legal c.verdict.encode.size
  · obtain ⟨answer, l, hw, -, ⟨rfl, hdata⟩ | ⟨e, part, rfl, hpart, hdata⟩⟩ :=
      writeAll_records k (framed c.verdict.encode)
    · refine ⟨_, ?_, begins_refl _, fun h => absurd hl h⟩
      rw [(run_of_sent hp hl hw).1, hungUp_data, hdata]
    · refine ⟨part, ?_, hpart, fun h => absurd hl h⟩
      rw [(run_of_unsent hp hl hw).1, hdata]
  · refine ⟨.empty, ?_, ⟨_, ByteArray.empty_append.symm⟩, fun _ => rfl⟩
    rw [(run_of_illegal hp hl).1, ByteArray.append_empty]

lemma sent_of_result (hp : c.phase = .start) {sent : Bool}
    (hr : (c.run {} k).1.result? = some (.ok sent)) :
    ∃ l, Legal c.verdict.encode.size ∧ Sink.writeAll k (framed c.verdict.encode) = (.all, l) := by
  by_cases hl : Legal c.verdict.encode.size
  · obtain ⟨answer, l, hw, -, ⟨rfl, -⟩ | ⟨e, part, rfl, -⟩⟩ := writeAll_records k (framed c.verdict.encode)
    · exact ⟨l, hl, hw⟩
    · rw [(run_of_unsent hp hl hw).2] at hr
      cases hr
  · rw [(run_of_illegal hp hl).2] at hr
    cases hr

end Call

end TwoHop.Proofs.Agent.Calling
