import TwoHop.Log.Level
import TwoHop.Settings.View

namespace TwoHop.Log

structure Theme where
  trace : String := "\x1b[37m"
  debug : String := "\x1b[36m"
  info : String := "\x1b[32m"
  warn : String := "\x1b[33m"
  error : String := "\x1b[31m"
  deriving DecidableEq, Repr

namespace Theme

def color (t : Theme) : Level → String
  | .trace => t.trace
  | .debug => t.debug
  | .info => t.info
  | .warn => t.warn
  | .error => t.error

def names : List String := ["trace", "debug", "info", "warn", "error"]

variable {ν ε : Type}

def required (v : View ν ε) (x : ν) (colors : List (String × String)) (name : String) : Except ε String :=
  match colors.lookup name with
  | some color => .ok color
  | none => .error (v.fault x s!"missing field `{name}`")

def read (v : View ν ε) (x : ν) : Except ε Theme := do
  let colors ← v.readRecord "struct LogTheme" names
    (fun colors name y => do return (name, ← v.text y) :: colors) ([] : List (String × String)) x
  let color := required v x colors
  return ⟨← color "trace", ← color "debug", ← color "info", ← color "warn", ← color "error"⟩

end Theme

end TwoHop.Log
