import TwoHop.Gate
import TwoHop.Flow.Relay

/-! A handover is what follows the frame at the front of a stream: the bytes read past the frame,
and the source. Whoever asks first gets it, and nobody after. -/

namespace TwoHop.Flow

structure Parts where
  remaining : ByteArray
  source : Source
  sourceEnded : Bool

structure Handover where
  gate : Gate := {}
  parts : Option Parts
  remainingSize : Nat
  sourceEnded : Bool

namespace Handover

def make (remaining : ByteArray) (source : Source) : Handover where
  parts := some ⟨remaining, source, source.isExhausted⟩
  remainingSize := remaining.size
  sourceEnded := source.isExhausted

def isConsumed (h : Handover) : Bool := h.gate.fired

def enter (h : Handover) : Bool × Handover :=
  let (first, gate) := h.gate.tryFire
  (first, { h with gate })

def claim (h : Handover) : Except Fault Parts × Handover :=
  match h.parts with
  | some p => (.ok p, { h with parts := none })
  | none => (.error .handoverReused, h)

def take (h : Handover) : Except Fault Parts × Handover :=
  let (first, h) := h.enter
  if first then h.claim else (.error .handoverReused, h)

def drain {κ : Type} (h : Handover) (policy : Policy) (sink : κ) (meter : Meter) :
    Except Fault (Transfer κ) × Handover :=
  let (parts, h) := h.take
  (parts.map fun p => .start policy p.remaining p.source p.sourceEnded sink meter, h)

def body (h : Handover) (policy : Policy) (meter : Meter) : Except Fault Body × Handover :=
  let (parts, h) := h.take
  (parts.map fun p =>
    if p.sourceEnded && p.remaining.isEmpty then .empty
    else .relayed (.start policy p.remaining p.source p.sourceEnded meter), h)

def boolText (b : Bool) : String := if b then "true" else "false"

def text (h : Handover) : String :=
  "Continuation \x7b remaining_len: " ++ toString h.remainingSize ++ ", source_ended: " ++
    boolText h.sourceEnded ++ ", consumed: " ++ boolText h.isConsumed ++ " \x7d"

end Handover

end TwoHop.Flow
