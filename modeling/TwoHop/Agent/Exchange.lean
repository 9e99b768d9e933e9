import TwoHop.Reply

namespace TwoHop

open TwoHop.Flow

structure Outbound where
  method : Method
  uri : Uri
  headers : Header.Map := .empty
  body : Body := .empty

structure Received where
  status : Status
  phrase : Option ByteArray := none
  headers : Header.Map := .empty
  length : Option UInt64 := none
  body : Source := {}

inductive Answer
  | response (r : Received)
  | failed (e : ExchangeError)
  | timedOut

def Answer.get (target : String) : Answer → Except Fault Received
  | .response r => .ok r
  | .failed e => .error (e.toFault target)
  | .timedOut => .error (.timeout target)

structure Connection where
  source : Source := {}
  sink : Outlet := {}

inductive Dial
  | connected (c : Connection)
  | failed (e : IoError)
  | timedOut

def Dial.get (address : String) : Dial → Except Fault Connection
  | .connected c => .ok c
  | .failed e => .error (.connect address e)
  | .timedOut => .error (.timeout address)

inductive Halt
  | fault (f : Fault)
  | crash (c : Crash)
  | silence

def orFault {α : Type} : Except Fault α → Except Halt α := Except.mapError Halt.fault

def orCrash {α : Type} : Except Crash α → Except Halt α := Except.mapError Halt.crash

/-- The fate of a request: a reply, unless the exchange crashed or still waits. -/
inductive Fate
  | replied (r : Reply)
  | crashed (c : Crash)
  | waiting

def Fate.ofExcept : Except Halt Reply → Fate
  | .ok r => .replied r
  | .error (.fault f) => .replied (.ofFault f)
  | .error (.crash c) => .crashed c
  | .error .silence => .waiting

structure Served where
  fate : Fate
  asked : Option Outbound := none
  body : Source

def Flow.Sink.writeAll {κ : Type} [Sink κ] (k : κ) (rest : ByteArray) : Written × κ :=
  match _ : Sink.write k rest with
  | (.more left, l) => writeAll l left
  | r => r
termination_by rest.size
decreasing_by exact Sink.size_lt_of_write ‹_›

def octets : String := "application/octet-stream"

def decimalBytes (n : UInt64) : ByteArray := (toString n.toNat).toUTF8

def outerLength (frame : ByteArray) (length : UInt64) : UInt64 := frame.size.toUInt64 + length

def framedBody (frame : ByteArray) (length : Option UInt64) (payload : Source) : Body :=
  if length = some 0 then .whole frame else .relayed (.start {} frame payload false {})

end TwoHop
