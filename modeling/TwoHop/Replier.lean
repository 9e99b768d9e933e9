import TwoHop.Envelope.Tunnel
import TwoHop.Frame
import TwoHop.Gate
import TwoHop.Flow.Sink

/-! The one reply on a tunnel connection. Many may try to reply; the gate lets one verdict out. A
call is a machine of small steps on the connection. -/

namespace TwoHop

open TwoHop.Flow

inductive CallPhase
  | start
  | writing (rest : ByteArray)
  | flushing
  | closing (sent : Bool)
  | done (result : Except IoError Bool)
  | crashed (crash : Crash)

structure Call where
  verdict : Verdict
  closes : Bool
  phase : CallPhase := .start

namespace Call

def reply (v : Verdict) : Call := { verdict := v, closes := false }

def reject (code : UInt16) (message : String) : Call :=
  { verdict := .refused code message, closes := true }

def rejectFault (f : Fault) : Call := reject f.status.code f.detail

def after (c : Call) (sent : Bool) : Call :=
  { c with phase := if c.closes then .closing sent else .done (.ok sent) }

def weight (c : Call) : Nat :=
  match c.phase with
  | .start => Frame.size c.verdict.encode.size + 4
  | .writing rest => rest.size + 3
  | .flushing => 2
  | .closing _ => 1
  | .done _ | .crashed _ => 0

def step {κ : Type} [Sink κ] (c : Call) (gate : Gate) (k : κ) : Option (Call × Gate × κ) :=
  match c.phase with
  | .start =>
    let (first, gate) := gate.tryFire
    if first then
      match Frame.encode c.verdict.encode with
      | .ok frame => some ({ c with phase := .writing frame }, gate, k)
      | .error e => some ({ c with phase := .crashed e }, gate, k)
    else some (c.after false, gate, k)
  | .writing rest =>
    match Sink.write k rest with
    | (.waits, _) => none
    | (.all, k) => some ({ c with phase := .flushing }, gate, k)
    | (.more rest, k) => some ({ c with phase := .writing rest }, gate, k)
    | (.failed e, k) => some ({ c with phase := .done (.error e) }, gate, k)
  | .flushing =>
    match Sink.flush k with
    | (.ok (), k) => some (c.after true, gate, k)
    | (.error e, k) => some ({ c with phase := .done (.error e) }, gate, k)
  | .closing sent =>
    let (e, k) := Sink.finish k
    some ({ c with phase := .done (e.map fun _ => sent) }, gate, k)
  | .done _ | .crashed _ => none

theorem weight_after_le (c : Call) (sent : Bool) : (c.after sent).weight ≤ 1 := by
  cases h : c.closes <;> simp [after, weight, h]

theorem weight_step {κ : Type} [Sink κ] {c d : Call} {gate gate' : Gate} {k k' : κ}
    (h : c.step gate k = some (d, gate', k')) : d.weight < c.weight := by
  revert h
  unfold step
  split
  · rename_i hp
    have hw : c.weight = Frame.size c.verdict.encode.size + 4 := by simp [weight, hp]
    simp only
    split
    · split
      · rename_i frame hf
        have := (Frame.encode_eq_ok_iff.1 hf).2
        rintro ⟨⟩
        rw [hw]
        simp only [weight, this, ByteArray.size_append, Frame.size_header, Frame.size]
        omega
      · rintro ⟨⟩
        rw [hw]
        simp [weight]
    · rintro ⟨⟩
      have := c.weight_after_le false
      omega
  · rename_i rest hp
    have hw : c.weight = rest.size + 3 := by simp [weight, hp]
    split
    · simp
    · rintro ⟨⟩
      rw [hw]
      simp [weight]
    · rename_i hs
      have := Sink.size_lt_of_write hs
      rintro ⟨⟩
      rw [hw]
      simp only [weight]
      omega
    · rintro ⟨⟩
      rw [hw]
      simp [weight]
  · rename_i hp
    have hw : c.weight = 2 := by simp [weight, hp]
    split
    · rintro ⟨⟩
      have := c.weight_after_le true
      omega
    · rintro ⟨⟩
      rw [hw]
      simp [weight]
  · rename_i hp
    have hw : c.weight = 1 := by simp [weight, hp]
    rintro ⟨⟩
    rw [hw]
    simp [weight]
  · simp
  · simp

def run {κ : Type} [Sink κ] (c : Call) (gate : Gate) (k : κ) : Call × Gate × κ :=
  match _ : c.step gate k with
  | none => (c, gate, k)
  | some (c', gate', k') => c'.run gate' k'
termination_by c.weight
decreasing_by exact weight_step ‹_›

def result? (c : Call) : Option (Except IoError Bool) :=
  match c.phase with
  | .done r => some r
  | _ => none

end Call

end TwoHop
