import TwoHop.Flow.Splice
import TwoHop.Proofs.Flow.Delivery
import TwoHop.Proofs.Flow.Intake

/-! One direction of a tunnel: whatever the outlet does with the bytes it is offered, those that it
takes are the bytes that were read, in order, up to somewhere in the last chunk. -/

namespace TwoHop.Proofs.Flow.Direction

open TwoHop.Flow
open Content Delivery Intake
open Proofs.Bytes

def AllButLast (pieces : List ByteArray) (taken : ByteArray) : Prop :=
  taken = join pieces ∨
    ∃ whole part rest, pieces = whole ++ [part ++ rest] ∧ taken = join whole ++ part

def Accounts (source : Source) (ahead : ByteArray) (t : Transfer Outlet) (taken : ByteArray) : Prop :=
  match t.copy.phase with
  | .reading => taken = ahead ++ join (heard source t.source) ∧
      outlook source = (join (heard source t.source) ++ (outlook t.source).1, (outlook t.source).2)
  | .writing rest => (∃ whole part, ahead :: heard source t.source = whole ++ [part ++ rest] ∧
        taken = join whole ++ part) ∧
      outlook source = (join (heard source t.source) ++ (outlook t.source).1, (outlook t.source).2)
  | .closing _ => False
  | .done (.ok _) => taken = ahead ++ join (heard source t.source) ∧
      outlook source = (join (heard source t.source), .clean)
  | .done (.error _) => AllButLast (ahead :: heard source t.source) taken ∧
      Begins (outlook source).1 (join (heard source t.source))

structure Underway (source : Source) (before ahead : ByteArray) (t : Transfer Outlet) : Prop where
  policy : t.copy.policy = Splice.policy
  unended : t.copy.sourceEnded = false
  becomes : Becomes source t.source
  accounts : ∃ taken, t.sink.data = before ++ taken ∧ Accounts source ahead t taken

variable {source : Source} {before ahead : ByteArray} {t u : Transfer Outlet}

lemma begins_of_allButLast {pieces : List ByteArray} {taken : ByteArray}
    (h : AllButLast pieces taken) : Begins (join pieces) taken := by
  rcases h with rfl | ⟨whole, part, rest, rfl, rfl⟩
  · exact begins_refl _
  · refine ⟨rest, ?_⟩
    rw [join_concat, ByteArray.append_assoc]

lemma Accounts.allButLast {taken : ByteArray} (h : Accounts source ahead t taken) :
    AllButLast (ahead :: heard source t.source) taken := by
  rw [Accounts] at h
  split at h
  · exact Or.inl h.1
  · next rest _ =>
    obtain ⟨⟨whole, part, hpieces, htaken⟩, -⟩ := h
    exact Or.inr ⟨whole, part, rest, hpieces, htaken⟩
  · exact h.elim
  · exact Or.inl h.1
  · exact h.1

lemma Accounts.outlook_begins {taken : ByteArray} (h : Accounts source ahead t taken) :
    Begins (outlook source).1 (join (heard source t.source)) := by
  rw [Accounts] at h
  split at h
  · rw [h.2]
    exact begins_append _ _
  · rw [h.2]
    exact begins_append _ _
  · exact h.elim
  · rw [h.2]
    exact begins_refl _
  · exact h.2

lemma offer_records (k : Outlet) (b : ByteArray) : (k.offer b).2.finished = k.finished ∧
    (k.offer b).2.data = match (k.offer b).1 with
      | .took n => k.data ++ b.extract 0 n
      | _ => k.data := by
  rw [Outlet.offer]
  split
  · exact ⟨rfl, rfl⟩
  · exact ⟨rfl, by simp only [Outlet.data, Array.foldl_push]⟩

def Recorded (k : Outlet) (rest : ByteArray) : Written × Outlet → Prop
  | (.waits, _) => False
  | (.all, l) => l.finished = k.finished ∧ l.data = k.data ++ rest
  | (.more left, l) => l.finished = k.finished ∧ ∃ part, rest = part ++ left ∧ l.data = k.data ++ part
  | (.failed _, l) => l.finished = k.finished ∧ l.data = k.data

lemma recorded_write (k : Outlet) (rest : ByteArray) : Recorded k rest (Sink.write k rest) := by
  have hprompt : (k.offer rest).1 ≠ .waits := by
    rw [Outlet.offer]
    split <;> simp
  obtain ⟨hfinished, hrecord⟩ := offer_records k rest
  rw [Sink.write, show Sink.offer k rest = k.offer rest from rfl]
  generalize k.offer rest = offered at hprompt hfinished hrecord
  obtain ⟨answer, l⟩ := offered
  cases answer with
  | waits => exact absurd rfl hprompt
  | refused e => exact ⟨hfinished, hrecord⟩
  | took n =>
    dsimp only at hfinished hrecord
    by_cases hall : rest.size ≤ n
    · rw [extract_to_end hall, ByteArray.extract_zero_size] at hrecord
      simp only [Written.ofOffer, if_pos hall]
      exact ⟨hfinished, hrecord⟩
    · by_cases hnone : n = 0
      · subst hnone
        rw [ByteArray.extract_same, ByteArray.append_empty] at hrecord
        simp only [Written.ofOffer, if_neg hall, if_true]
        exact ⟨hfinished, hrecord⟩
      · simp only [Written.ofOffer, if_neg hall, if_neg hnone]
        have hcut := extract_append_rejoin (Nat.le_of_not_le hall)
        exact ⟨hfinished, rest.extract 0 n, hcut.symm, hrecord⟩

lemma conclude_policy {c : Copy} (hp : c.policy = Splice.policy) (result : Except Fault Nat) :
    c.conclude result = { c with phase := .done result } := by
  have hends : Splice.policy.ends result = false := by cases result <;> rfl
  simp [Copy.conclude, hp, hends]

lemma underway_read (h : Underway source before ahead t) (hp : t.copy.phase = .reading)
    (hs : t.read = some u) : Underway source before ahead u ∧ u.sink = t.sink := by
  obtain ⟨⟨policy, phase, sourceEnded, copied⟩, now, sink, meter⟩ := t
  obtain ⟨hpolicy, hunended, hbecomes, taken, hdata, haccounts⟩ := h
  cases hp
  dsimp only at hpolicy hunended hbecomes hdata
  simp only [Accounts] at haccounts
  obtain ⟨rfl, houtlook⟩ := haccounts
  have hafter := becomes_pull hbecomes defaultReadSize
  have hheard := heard_pull hbecomes defaultReadSize
  have hpulled := pulled_pull now defaultReadSize
  simp only [Transfer.read] at hs
  generalize now.pull defaultReadSize = pulled at hafter hheard hpulled hs
  obtain ⟨answer, later⟩ := pulled
  dsimp only at hafter hheard
  cases answer with
  | waits => cases hs
  | ended =>
    have hnow : outlook now = (.empty, .clean) := hpulled
    dsimp only at hs
    rw [conclude_policy (by exact hpolicy)] at hs
    cases hs
    refine ⟨⟨hpolicy, hunended, hafter, _, hdata, ?_⟩, rfl⟩
    simp [Accounts, hheard, chunkOf, houtlook, hnow]
  | fault e =>
    dsimp only at hs
    rw [conclude_policy (by exact hpolicy)] at hs
    cases hs
    refine ⟨⟨hpolicy, hunended, hafter, _, hdata, ?_⟩, rfl⟩
    simp only [Accounts, hheard, chunkOf, List.append_nil, houtlook]
    exact ⟨Or.inl rfl, begins_append _ _⟩
  | chunk b =>
    have hnow : outlook now = (b ++ (outlook later).1, (outlook later).2) := hpulled
    have hread : outlook source =
        (join (heard source now ++ [b]) ++ (outlook later).1, (outlook later).2) := by
      rw [houtlook, hnow, join_concat, ByteArray.append_assoc]
    dsimp only at hs
    split at hs
    · next hb =>
      cases hs
      refine ⟨⟨hpolicy, hunended, hafter, _, hdata, ?_⟩, rfl⟩
      simp only [Accounts, hheard, chunkOf]
      refine ⟨?_, hread⟩
      rw [join_concat, eq_empty_of_isEmpty hb, ByteArray.append_empty]
    · cases hs
      refine ⟨⟨hpolicy, hunended, hafter, _, hdata, ?_⟩, rfl⟩
      simp only [Accounts, Copy.beginWrite, hheard, chunkOf]
      refine ⟨⟨ahead :: heard source now, .empty, ?_, ?_⟩, hread⟩
      · rw [ByteArray.empty_append, List.cons_append]
      · rw [join_cons, ByteArray.append_empty]

lemma underway_write (h : Underway source before ahead t) {rest : ByteArray}
    (hp : t.copy.phase = .writing rest) (hs : t.write rest = some u) :
    Underway source before ahead u ∧ u.sink.finished = t.sink.finished := by
  obtain ⟨⟨policy, phase, sourceEnded, copied⟩, now, sink, meter⟩ := t
  obtain ⟨hpolicy, hunended, hbecomes, taken, hdata, haccounts⟩ := h
  cases hp
  dsimp only at hpolicy hunended hbecomes hdata
  simp only [Accounts] at haccounts
  obtain ⟨⟨whole, part, hpieces, rfl⟩, houtlook⟩ := haccounts
  have hrecorded := recorded_write sink rest
  simp only [Transfer.write] at hs
  generalize Sink.write sink rest = written at hrecorded hs
  obtain ⟨answer, after⟩ := written
  cases answer with
  | waits => exact hrecorded.elim
  | failed e =>
    obtain ⟨hfinished, hrecord⟩ := hrecorded
    dsimp only at hs
    rw [conclude_policy (by exact hpolicy)] at hs
    cases hs
    refine ⟨⟨hpolicy, hunended, hbecomes, _, hrecord.trans hdata, ?_⟩, hfinished⟩
    simp only [Accounts]
    refine ⟨Or.inr ⟨whole, part, rest, hpieces, rfl⟩, ?_⟩
    rw [houtlook]
    exact begins_append _ _
  | all =>
    obtain ⟨hfinished, hrecord⟩ := hrecorded
    rw [hdata, ByteArray.append_assoc] at hrecord
    simp only [Copy.resume, hunended, Bool.false_eq_true, if_false, Option.some.injEq] at hs
    subst hs
    refine ⟨⟨hpolicy, rfl, hbecomes, _, hrecord, ?_⟩, hfinished⟩
    simp only [Accounts]
    refine ⟨?_, houtlook⟩
    rw [ByteArray.append_assoc, ← join_concat, ← hpieces, join_cons]
  | more left =>
    obtain ⟨hfinished, front, rfl, hrecord⟩ := hrecorded
    rw [hdata, ByteArray.append_assoc] at hrecord
    simp only [Option.some.injEq] at hs
    subst hs
    refine ⟨⟨hpolicy, hunended, hbecomes, _, hrecord, ?_⟩, hfinished⟩
    simp only [Accounts]
    refine ⟨⟨whole, part ++ front, ?_, ByteArray.append_assoc⟩, houtlook⟩
    rw [hpieces, ByteArray.append_assoc]

lemma underway_step (h : Underway source before ahead t) (hs : t.step = some u) :
    Underway source before ahead u ∧ u.sink.finished = t.sink.finished := by
  rw [Transfer.step] at hs
  split at hs
  · next hp =>
    obtain ⟨hu, hsink⟩ := underway_read h hp hs
    exact ⟨hu, by rw [hsink]⟩
  · next rest hp => exact underway_write h hp hs
  · next result hp =>
    -- The copies of a tunnel leave the shutting down to it.
    obtain ⟨taken, -, haccounts⟩ := h.accounts
    simp [Accounts, hp] at haccounts
  · cases hs

lemma underway_start (source : Source) (ahead : ByteArray) (sink : Outlet) (meter : Meter) :
    Underway source sink.data ahead (.start Splice.policy ahead source false sink meter) := by
  have hclear : outlook source = (join (heard source source) ++ (outlook source).1,
      (outlook source).2) := by
    rw [heard_refl, join_nil, ByteArray.empty_append]
  rw [Transfer.start]
  split
  · next ha =>
    refine ⟨rfl, rfl, becomes_refl source, .empty, ByteArray.append_empty.symm, ?_⟩
    refine ⟨?_, hclear⟩
    rw [heard_refl, eq_empty_of_isEmpty ha]
    rfl
  · refine ⟨rfl, rfl, becomes_refl source, .empty, ByteArray.append_empty.symm, ?_⟩
    refine ⟨⟨[], .empty, ?_, rfl⟩, hclear⟩
    rw [heard_refl, ByteArray.empty_append, List.nil_append]

lemma underway_sink (h : Underway source before ahead t) {k : Outlet} (hk : k.data = t.sink.data) :
    Underway source before ahead { t with sink := k } :=
  ⟨h.policy, h.unended, h.becomes, by rw [hk]; exact h.accounts⟩

end TwoHop.Proofs.Flow.Direction
