import TwoHop.Frame

/-! A scanner collects chunks until one frame is complete and keeps what came after it. -/

namespace TwoHop.Frame

inductive Stage
  | awaitingHeader
  | awaitingBody (length : Nat)
  | done
  | failed
  deriving DecidableEq, Repr

structure Scanned where
  body : ByteArray
  remaining : ByteArray
  deriving DecidableEq

structure Scanner where
  stage : Stage := .awaitingHeader
  buffer : ByteArray := .empty

namespace Scanner

def fresh : Scanner := {}

def wanted (s : Scanner) : Nat :=
  match s.stage with
  | .awaitingHeader => headerSize - s.buffer.size
  | .awaitingBody n => size n - s.buffer.size
  | .done | .failed => 0

def crosses (before after boundary : Nat) : Bool := before < boundary && boundary ≤ after

def takeBody (before n : Nat) (buffer : ByteArray) : Option Scanned × Scanner :=
  if crosses before buffer.size (size n) then
    (some ⟨buffer.extract headerSize (size n), buffer.extract (size n) buffer.size⟩, ⟨.done, .empty⟩)
  else (none, ⟨.awaitingBody n, buffer⟩)

def push (s : Scanner) (chunk : ByteArray) : Except FrameFault (Option Scanned) × Scanner :=
  match s with
  | ⟨.done, buffer⟩ => (.error .afterDone, ⟨.done, buffer⟩)
  | ⟨.failed, buffer⟩ => (.error .afterFailed, ⟨.failed, buffer⟩)
  | ⟨.awaitingBody n, buffer⟩ =>
    let before := buffer.size
    let (found, s) := takeBody before n (buffer ++ chunk)
    (.ok found, s)
  | ⟨.awaitingHeader, buffer⟩ =>
    let before := buffer.size
    let buffer := buffer ++ chunk
    if crosses before buffer.size headerSize then
      match parseHeader (buffer.extract 0 headerSize) with
      | .error e => (.error e, ⟨.failed, buffer⟩)
      | .ok n =>
        let (found, s) := takeBody before n buffer
        (.ok found, s)
    else (.ok none, ⟨.awaitingHeader, buffer⟩)

def expected (s : Scanner) : Nat :=
  match s.stage with
  | .awaitingBody n => size n
  | _ => headerSize

def prematureEnd (s : Scanner) : Fault × Scanner :=
  (.prematureEnd s.buffer.size s.expected, { s with stage := .failed })

def fail (s : Scanner) : Scanner := { s with stage := .failed }

end Scanner

end TwoHop.Frame
