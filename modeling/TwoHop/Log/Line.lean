import TwoHop.Log.Stamp
import TwoHop.Log.Theme
import TwoHop.Text.Quoted

namespace TwoHop.Log

structure Span where
  name : String
  fields : List (String × String) := []
  deriving DecidableEq, Repr

structure Event where
  level : Level
  source : String
  message : String
  spans : List Span := []
  deriving DecidableEq, Repr

namespace Line

def reset : String := "\x1b[0m"
def italic : String := "\x1b[3m"
def dim : String := "\x1b[2m"

/-- A message cannot steer the terminal: what could begin a control sequence is spelled out. -/
def escapeChar (c : Char) : String :=
  let n := c.toNat
  if n = 0x1B ∨ n = 0x07 ∨ n = 0x08 ∨ n = 0x0C ∨ n = 0x7F then
    "\\x" ++ (if n < 16 then "0" else "") ++ Text.hex n
  else if 0x80 ≤ n ∧ n ≤ 0x9F then "\\u\x7b" ++ Text.hex n ++ "\x7d"
  else c.toString

def escape (s : String) : String := String.join (s.toList.map escapeChar)

def fieldText (colored : Bool) (f : String × String) : String :=
  if colored then italic ++ f.1 ++ reset ++ dim ++ "=" ++ reset ++ f.2 else f.1 ++ "=" ++ f.2

def spanText (colored : Bool) (s : Span) : String :=
  let fields := " ".intercalate (s.fields.map (fieldText colored))
  s.name ++ (if fields.isEmpty then "" else "\x7b" ++ fields ++ "\x7d") ++ " "

def levelText (theme : Theme) (colored : Bool) (l : Level) : String :=
  let name := l.name ++ String.ofList (List.replicate (5 - l.name.length) ' ')
  if colored then theme.color l ++ name ++ reset else name

def body (theme : Theme) (colored : Bool) (e : Event) : String :=
  levelText theme colored e.level ++ " " ++ String.join (e.spans.map (spanText colored)) ++
    e.source ++ ": " ++ escape e.message ++ "\n"

def text (theme : Theme) (colored : Bool) (millis : Int) (e : Event) : String :=
  stamp millis ++ " " ++ body theme colored e

end Line

end TwoHop.Log
