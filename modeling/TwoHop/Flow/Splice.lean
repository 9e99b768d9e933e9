import TwoHop.Gate
import TwoHop.Flow.Copy

/-! A splice joins two connections, A and B, into a tunnel: two copies run side by side until one
stops or someone asks for the end. Then both connections are shut down, each once. -/

namespace TwoHop.Flow

inductive SpliceEnd
  | sideA | sideB | closed
  deriving DecidableEq, Repr

inductive Teardown
  | shutA | shutB | finished
  deriving DecidableEq, Repr

structure Splice where
  up : Transfer Outlet
  down : Transfer Outlet
  closeAsked : Bool := false
  outcome : Option (Except Fault SpliceEnd) := none
  gate : Gate := {}
  teardown : Option Teardown := none

inductive SpliceStep
  | up
  | down
  | ask
  | heed
  | teardown
  deriving DecidableEq, Repr

namespace Splice

def policy : Policy := ⟨false, false⟩

def start (aIn : Source) (aOut : Outlet) (bIn : Source) (bOut : Outlet) (ahead : ByteArray)
    (upMeter downMeter : Meter) : Splice where
  up := .start policy ahead aIn false bOut upMeter
  down := .start policy .empty bIn false aOut downMeter

def isClosed (s : Splice) : Bool := s.gate.fired

def stepUp (s : Splice) : Splice :=
  match s.up.result? with
  | some r => { s with outcome := some (r.map fun _ => .sideA) }
  | none => { s with up := s.up.step.getD s.up }

def stepDown (s : Splice) : Splice :=
  match s.down.result? with
  | some r => { s with outcome := some (r.map fun _ => .sideB) }
  | none => { s with down := s.down.step.getD s.down }

def heed (s : Splice) : Splice :=
  if s.closeAsked then { s with outcome := some (.ok .closed), closeAsked := false } else s

/-- Shuts the two sides down, one after the other. A side that fails to shut does not keep the
other one open. -/
def stepTeardown (s : Splice) : Splice :=
  match s.teardown with
  | none =>
    let (first, gate) := s.gate.tryFire
    { s with gate, teardown := some (if first then .shutA else .finished) }
  | some .shutA =>
    { s with down := { s.down with sink := s.down.sink.finish.2 }, teardown := some .shutB }
  | some .shutB =>
    { s with up := { s.up with sink := s.up.sink.finish.2 }, teardown := some .finished }
  | some .finished => s

def step (s : Splice) : SpliceStep → Splice
  | .ask => { s with closeAsked := true }
  | .up => if s.outcome.isNone then s.stepUp else s
  | .down => if s.outcome.isNone then s.stepDown else s
  | .heed => if s.outcome.isNone then s.heed else s
  | .teardown => if s.outcome.isSome then s.stepTeardown else s

def result? (s : Splice) : Option (Except Fault SpliceEnd) :=
  if s.teardown = some .finished then s.outcome else none

def tearDown (s : Splice) : Splice :=
  [SpliceStep.teardown, .teardown, .teardown].foldl step s

def settle (s : Splice) : Splice :=
  if s.outcome.isSome then s
  else
    let s := { s with up := s.up.run, down := s.down.run }
    (((s.step .up).step .down).step .heed).tearDown

def supplyA (s : Splice) (b : ByteArray) : Splice :=
  { s with up := { s.up with source := s.up.source.supply b } }

def supplyB (s : Splice) (b : ByteArray) : Splice :=
  { s with down := { s.down with source := s.down.source.supply b } }

def hangUpA (s : Splice) : Splice :=
  { s with up := { s.up with source := s.up.source.hangUp } }

def hangUpB (s : Splice) : Splice :=
  { s with down := { s.down with source := s.down.source.hangUp } }

end Splice

end TwoHop.Flow
