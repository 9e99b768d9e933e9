import TwoHop.Flow.Sink

namespace TwoHop.Flow

structure Outlet where
  room : Option Nat := none
  most : Option Nat := none
  fault : IoError := ⟨.brokenPipe, "sink closed", []⟩
  finishFails : Bool := false
  writes : Array ByteArray := #[]
  flushed : Nat := 0
  finished : Nat := 0
  deriving DecidableEq

namespace Outlet

def data (k : Outlet) : ByteArray := k.writes.foldl (· ++ ·) .empty

def offer (k : Outlet) (b : ByteArray) : Offer × Outlet :=
  if k.room = some 0 then (.refused k.fault, k)
  else
    let count := min b.size (k.most.getD b.size)
    (.took count,
      { k with room := k.room.map (· - 1), writes := k.writes.push (b.extract 0 count) })

def flush (k : Outlet) : Except IoError Unit × Outlet :=
  (.ok (), { k with flushed := k.flushed + 1 })

def finish (k : Outlet) : Except IoError Unit × Outlet :=
  (if k.finishFails then .error k.fault else .ok (), { k with finished := k.finished + 1 })

instance : Sink Outlet := ⟨offer, flush, finish⟩

end Outlet

end TwoHop.Flow
