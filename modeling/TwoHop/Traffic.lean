namespace TwoHop

inductive Leg
  | httpUp | httpDown | httpsUp | httpsDown
  deriving DecidableEq, Repr

namespace Leg

def all : List Leg := [httpUp, httpDown, httpsUp, httpsDown]

def name : Leg → String
  | httpUp => "http_up"
  | httpDown => "http_down"
  | httpsUp => "https_up"
  | httpsDown => "https_down"

end Leg

/-- What went one way on one leg. Both counters start again from zero after 2⁶⁴ - 1. -/
structure Meter where
  pipes : UInt64 := 0
  bytes : UInt64 := 0
  deriving DecidableEq, Repr

namespace Meter

def opened (m : Meter) : Meter := { m with pipes := m.pipes + 1 }

def record (m : Meter) (n : Nat) : Meter := { m with bytes := m.bytes + n.toUInt64 }

end Meter

structure Traffic where
  httpUp : Meter := {}
  httpDown : Meter := {}
  httpsUp : Meter := {}
  httpsDown : Meter := {}
  deriving DecidableEq, Repr

namespace Traffic

def meter (t : Traffic) : Leg → Meter
  | .httpUp => t.httpUp
  | .httpDown => t.httpDown
  | .httpsUp => t.httpsUp
  | .httpsDown => t.httpsDown

def modify (t : Traffic) (f : Meter → Meter) : Leg → Traffic
  | .httpUp => { t with httpUp := f t.httpUp }
  | .httpDown => { t with httpDown := f t.httpDown }
  | .httpsUp => { t with httpsUp := f t.httpsUp }
  | .httpsDown => { t with httpsDown := f t.httpsDown }

theorem meter_modify (t : Traffic) (f : Meter → Meter) (l k : Leg) :
    (t.modify f l).meter k = if k = l then f (t.meter k) else t.meter k := by
  cases l <;> cases k <;> rfl

def line (t : Traffic) (l : Leg) : String :=
  s!"{l.name} pipes={(t.meter l).pipes} bytes={(t.meter l).bytes}"

def summary (t : Traffic) : List String := Leg.all.map t.line

def reportTimes (interval elapsed : Nat) : List Nat :=
  (List.range (elapsed / interval)).map fun k => (k + 1) * interval

def reportText (t : Traffic) : String := ", ".intercalate t.summary

def report (t : Traffic) (after : Nat) : String := s!"Traffic after {after}s: " ++ t.reportText

end Traffic

end TwoHop
