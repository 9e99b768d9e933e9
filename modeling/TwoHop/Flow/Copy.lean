import TwoHop.Fault
import TwoHop.Flow.Outlet
import TwoHop.Flow.Source
import TwoHop.Traffic

/-! A copy moves a source into a sink, one chunk at a time: the next chunk is asked for when the
one before has been taken. It is a machine of small steps, so that several copies can run side by
side in any order. -/

namespace TwoHop.Flow

structure Policy where
  endOnSuccess : Bool := true
  endOnFailure : Bool := true
  deriving DecidableEq, Repr

def Policy.ends (p : Policy) : Except Fault Nat → Bool
  | .ok _ => p.endOnSuccess
  | .error _ => p.endOnFailure

inductive Phase
  | reading
  | writing (rest : ByteArray)
  | closing (result : Except Fault Nat)
  | done (result : Except Fault Nat)

structure Copy where
  policy : Policy := {}
  phase : Phase := .reading
  sourceEnded : Bool := false
  total : Nat := 0

structure Transfer (κ : Type) where
  copy : Copy
  source : Source
  sink : κ
  meter : Meter := {}

/-- What a finish adds to the result: its failure counts when all went well before. -/
def closedResult (result : Except Fault Nat) : Except IoError Unit → Except Fault Nat
  | .ok () => result
  | .error e => match result with
    | .ok _ => .error (.sinkWrite e)
    | .error f => .error f

namespace Copy

def conclude (c : Copy) (result : Except Fault Nat) : Copy :=
  { c with phase := if c.policy.ends result then .closing result else .done result }

def resume (c : Copy) : Copy :=
  if c.sourceEnded then c.conclude (.ok c.total) else { c with phase := .reading }

def beginWrite (c : Copy) (b : ByteArray) : Copy :=
  { c with phase := .writing b, total := c.total + b.size }

def result? (c : Copy) : Option (Except Fault Nat) :=
  match c.phase with
  | .done r => some r
  | _ => none

def weight (c : Copy) : Nat :=
  match c.phase with
  | .reading => 2
  | .writing rest => rest.size + 4
  | .closing _ => 1
  | .done _ => 0

theorem weight_conclude_le (c : Copy) (r : Except Fault Nat) : (c.conclude r).weight ≤ 1 := by
  cases h : c.policy.ends r <;> simp [conclude, weight, h]

theorem weight_resume_le (c : Copy) : c.resume.weight ≤ 2 := by
  unfold resume
  split
  · exact Nat.le_succ_of_le (weight_conclude_le c _)
  · simp [weight]

end Copy

namespace Transfer

variable {κ : Type}

def start (policy : Policy) (ahead : ByteArray) (source : Source) (sourceEnded : Bool) (sink : κ)
    (meter : Meter) : Transfer κ :=
  let c : Copy := { policy, sourceEnded }
  let meter := meter.opened
  if ahead.isEmpty then ⟨c.resume, source, sink, meter⟩
  else ⟨c.beginWrite ahead, source, sink, meter.record ahead.size⟩

def result? (t : Transfer κ) : Option (Except Fault Nat) := t.copy.result?

def read (t : Transfer κ) : Option (Transfer κ) :=
  match t.source.pull defaultReadSize with
  | (.waits, _) => none
  | (.ended, source) => some { t with copy := t.copy.conclude (.ok t.copy.total), source }
  | (.fault e, source) => some { t with copy := t.copy.conclude (.error (.io e)), source }
  | (.chunk b, source) =>
    if b.isEmpty then some { t with source }
    else some { t with copy := t.copy.beginWrite b, source, meter := t.meter.record b.size }

def write [Sink κ] (t : Transfer κ) (rest : ByteArray) : Option (Transfer κ) :=
  match Sink.write t.sink rest with
  | (.waits, _) => none
  | (.all, sink) => some { t with copy := t.copy.resume, sink }
  | (.more rest, sink) => some { t with copy := { t.copy with phase := .writing rest }, sink }
  | (.failed e, sink) => some { t with copy := t.copy.conclude (.error (.sinkWrite e)), sink }

def step [Sink κ] (t : Transfer κ) : Option (Transfer κ) :=
  match t.copy.phase with
  | .reading => t.read
  | .writing rest => t.write rest
  | .closing r =>
    let (e, sink) := Sink.finish t.sink
    some { t with copy := { t.copy with phase := .done (closedResult r e) }, sink }
  | .done _ => none

def weight (t : Transfer κ) : Nat := 4 * t.source.weight + t.copy.weight

theorem weight_read {t u : Transfer κ} (hp : t.copy.phase = .reading) (h : t.read = some u) :
    u.weight < t.weight := by
  have hr : t.copy.weight = 2 := by simp [Copy.weight, hp]
  have hle := t.source.weight_pull_le defaultReadSize
  revert h
  unfold read
  split
  · simp
  · rename_i source hs
    rw [hs] at hle
    rintro ⟨⟩
    have := t.copy.weight_conclude_le (.ok t.copy.total)
    simp only [weight] at *
    omega
  · rename_i e source hs
    rw [hs] at hle
    rintro ⟨⟩
    have := t.copy.weight_conclude_le (.error (.io e))
    simp only [weight] at *
    omega
  · rename_i b source hs
    have := Source.weight_pull hs
    split
    · rintro ⟨⟩
      simp only [weight]
      omega
    · rename_i hb
      have hb : 0 < b.size := by
        rcases Nat.eq_zero_or_pos b.size with h | h
        · simp [ByteArray.isEmpty, h] at hb
        · exact h
      rintro ⟨⟩
      simp only [weight, hr, Copy.beginWrite]
      simp only [Copy.weight]
      omega

theorem weight_write [Sink κ] {t u : Transfer κ} {rest : ByteArray}
    (hp : t.copy.phase = .writing rest) (h : t.write rest = some u) : u.weight < t.weight := by
  have hr : t.copy.weight = rest.size + 4 := by simp [Copy.weight, hp]
  revert h
  unfold write
  split
  · simp
  · rintro ⟨⟩
    have := t.copy.weight_resume_le
    simp only [weight]
    omega
  · rename_i left sink hs
    have := Sink.size_lt_of_write hs
    rintro ⟨⟩
    simp only [weight, hr]
    simp only [Copy.weight]
    omega
  · rename_i e sink _
    rintro ⟨⟩
    have := t.copy.weight_conclude_le (.error (.sinkWrite e))
    simp only [weight]
    omega

theorem weight_step [Sink κ] {t u : Transfer κ} (h : t.step = some u) : u.weight < t.weight := by
  revert h
  unfold step
  split
  · exact weight_read ‹_›
  · exact weight_write ‹_›
  · rename_i hp
    rintro ⟨⟩
    simp only [weight, Copy.weight, hp]
    omega
  · simp

def run [Sink κ] (t : Transfer κ) : Transfer κ :=
  match _ : t.step with
  | none => t
  | some u => run u
termination_by t.weight
decreasing_by exact weight_step ‹_›

end Transfer

end TwoHop.Flow
