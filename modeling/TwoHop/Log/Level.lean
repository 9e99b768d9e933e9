import TwoHop.Text.Ascii
import TwoHop.Text.Blank

namespace TwoHop.Log

inductive Level
  | error | warn | info | debug | trace
  deriving DecidableEq, Repr

namespace Level

def all : List Level := [error, warn, info, debug, trace]

def name : Level → String
  | error => "ERROR"
  | warn => "WARN"
  | info => "INFO"
  | debug => "DEBUG"
  | trace => "TRACE"

def maxNumber : Nat := 18446744073709551615

def ofNumber? (n : Nat) : Option Level := if n = 0 then none else all[n - 1]?

def ofName? (s : String) : Option Level := all.find? fun l => Text.sameIgnoringCase l.name s

def parse? (s : String) : Option Level :=
  let s := Text.trim s
  match (Text.decimal? maxNumber s.toList).bind ofNumber? with
  | some l => some l
  | none => ofName? s

def fault (s : String) : String := "Invalid log level: " ++ s

theorem ofName?_name (l : Level) : ofName? l.name = some l := by cases l <;> decide +kernel

end Level

end TwoHop.Log
