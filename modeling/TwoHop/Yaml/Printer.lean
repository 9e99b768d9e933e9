import TwoHop.Data
import TwoHop.Yaml.Value

namespace TwoHop.Yaml

def isShown (c : Char) : Bool :=
  let n := c.toNat
  n == 0x0A || (0x20 ≤ n && n ≤ 0x7E) || (0xA0 ≤ n && n != 0xFEFF && n != 0xFFFE && n != 0xFFFF)

structure Shape where
  indicator : Bool
  broken : Bool
  loose : Bool
  endsInSpace : Bool
  breakSpace : Bool
  spaceBreak : Bool
  hidden : Bool

namespace Shape

def followedBy (p q : Char → Bool) : List Char → Bool
  | c :: d :: cs => (p c && q d) || followedBy p q (d :: cs)
  | _ => false

def endsWord (c : Char) : Bool := isBlankOrBreak c || c == '\x00'

def isSpace (c : Char) : Bool := c == ' '

def hasInnerIndicator (cs : List Char) : Bool :=
  followedBy (· == ':') endsWord cs || cs.getLast? == some ':' || followedBy endsWord (· == '#') cs

def hasFirstIndicator : List Char → Bool
  | [] => false
  | c :: cs =>
    "#,[]\x7b\x7d&*!|>'\"%@\x60".toList.contains c ||
      ("-?:".toList.contains c && (cs.isEmpty || cs.head?.any endsWord))

def startsMark (cs : List Char) : Bool := "---".toList.isPrefixOf cs || "...".toList.isPrefixOf cs

def ofText (cs : List Char) : Shape :=
  let edge (p : Char → Bool) : Bool := cs.head?.any p || cs.getLast?.any p
  { indicator := startsMark cs || hasFirstIndicator cs || hasInnerIndicator cs
    broken := cs.any isBreak
    loose := edge fun c => isSpace c || isBreak c
    endsInSpace := cs.getLast?.any isSpace
    breakSpace := followedBy isBreak isSpace cs
    spaceBreak := followedBy isSpace isBreak cs
    hidden := cs.any (!isShown ·) }

def allowsPlain (s : Shape) : Bool :=
  !(s.indicator || s.broken || s.loose || s.breakSpace || s.spaceBreak || s.hidden)

def allowsSingle (s : Shape) : Bool := !(s.breakSpace || s.spaceBreak || s.hidden)

def allowsBlock (s : Shape) : Bool := !(s.endsInSpace || s.spaceBreak || s.hidden)

end Shape

def isAmbiguous (s : String) : Bool :=
  match plainValue s with
  | .text _ => isZeroFilled s.toList
  | _ => true

def styleOf (s : String) : Style :=
  let shape := Shape.ofText s.toList
  if s.toList.contains '\n' then (if shape.allowsBlock then .literal else .double)
  else if !isAmbiguous s && shape.allowsPlain then .plain
  else if shape.allowsSingle then .single
  else .double

def indentText (n : Nat) : String := .ofList (List.replicate n ' ')

def singleFrom (indent : Nat) : (fresh : Bool) → List Char → String
  | fresh, [] => if fresh then indentText indent else ""
  | fresh, c :: cs =>
    if isBreak c then c.toString ++ singleFrom indent true cs
    else
      (if fresh then indentText indent else "") ++ (if c == '\'' then "''" else c.toString) ++
        singleFrom indent false cs

def single (indent : Nat) (s : String) : String := "'" ++ singleFrom indent false s.toList ++ "'"

def hexUpper (width n : Nat) : String :=
  let ds := (Nat.toDigits 16 n).map Char.toUpper
  .ofList (List.replicate (width - ds.length) '0' ++ ds)

def writtenEscapes : List (Char × String) := [
  ('\x00', "0"), ('\x07', "a"), ('\x08', "b"), ('\t', "t"), ('\n', "n"), ('\x0B', "v"), ('\x0C', "f"),
  ('\r', "r"), ('\x1B', "e"), ('"', "\""), ('\\', "\\"), ('\u0085', "N"), ('\u00A0', "_"),
  ('\u2028', "L"), ('\u2029', "P")]

def escaped (c : Char) : String :=
  "\\" ++ match writtenEscapes.lookup c with
    | some e => e
    | none =>
      let n := c.toNat
      if n ≤ 0xFF then "x" ++ hexUpper 2 n
      else if n ≤ 0xFFFF then "u" ++ hexUpper 4 n
      else "U" ++ hexUpper 8 n

def double (s : String) : String :=
  let one (c : Char) : String :=
    if !isShown c || isBreak c || c == '"' || c == '\\' then escaped c else c.toString
  "\"" ++ String.join (s.toList.map one) ++ "\""

def chompText (cs : List Char) : String :=
  match cs.reverse with
  | [] => "-"
  | c :: rest =>
    if !isBreak c then "-"
    else match rest with
      | [] => "+"
      | d :: _ => if isBreak d then "+" else ""

def literalFrom (indent : Nat) : (fresh : Bool) → List Char → String
  | _, [] => ""
  | fresh, c :: cs =>
    if isBreak c then c.toString ++ literalFrom indent true cs
    else (if fresh then indentText indent else "") ++ c.toString ++ literalFrom indent false cs

def literal (indent : Nat) (s : String) : String :=
  let cs := s.toList
  let hint := if cs.head?.any fun c => c == ' ' || isBreak c then "2" else ""
  "|" ++ hint ++ chompText cs ++ "\n" ++ literalFrom indent true cs

def scalarText (indent : Nat) (s : String) : String :=
  match styleOf s with
  | .plain => s ++ "\n"
  | .single => single indent s ++ "\n"
  | .literal => literal indent s ++ if s.endsWith "\n" then "" else "\n"
  | _ => double s ++ "\n"

def nameText (s : String) : String :=
  match styleOf s with
  | .plain => s
  | .single => single 0 s
  | _ => double s

mutual

def valueText (indent : Nat) : Data → String
  | .null => " null\n"
  | .flag b => if b then " true\n" else " false\n"
  | .integer n => s!" {n}\n"
  | .decimal t => " " ++ t ++ "\n"
  | .text s => " " ++ scalarText (indent + 2) s
  | .list [] => " []\n"
  | .record [] => " \x7b\x7d\n"
  | .list (x :: xs) => "\n" ++ itemsText indent (x :: xs)
  | .record (f :: fs) => "\n" ++ fieldsText (indent + 2) (f :: fs)

def itemText (indent : Nat) : Data → String
  | .list (x :: xs) => " -" ++ itemText (indent + 2) x ++ itemsText (indent + 2) xs
  | .record ((name, x) :: fs) =>
    " " ++ nameText name ++ ":" ++ valueText (indent + 2) x ++ fieldsText (indent + 2) fs
  | .null => " null\n"
  | .flag b => if b then " true\n" else " false\n"
  | .integer n => s!" {n}\n"
  | .decimal t => " " ++ t ++ "\n"
  | .text s => " " ++ scalarText (indent + 2) s
  | .list [] => " []\n"
  | .record [] => " \x7b\x7d\n"

def itemsText (indent : Nat) : List Data → String
  | [] => ""
  | x :: xs => indentText indent ++ "-" ++ itemText indent x ++ itemsText indent xs

def fieldsText (indent : Nat) : List (String × Data) → String
  | [] => ""
  | (name, x) :: fs =>
    indentText indent ++ nameText name ++ ":" ++ valueText indent x ++ fieldsText indent fs

end

def document (fields : List (String × Data)) : String := fieldsText 0 fields

end TwoHop.Yaml
