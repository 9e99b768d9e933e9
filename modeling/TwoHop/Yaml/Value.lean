import TwoHop.Text.Quoted
import TwoHop.Yaml.Node

namespace TwoHop.Yaml

inductive Value
  | null
  | flag (b : Bool)
  | integer (n : Int)
  | wide (n : Int)
  | decimal (text : String)
  | text (s : String)
  | sequence
  | mapping
  deriving DecidableEq, Repr, Inhabited

def Value.describe : Value → String
  | .null => "unit value"
  | .flag b => s!"boolean `{b}`"
  | .integer n => s!"integer `{n}`"
  | .wide n => s!"integer `{n}` as " ++ if n < 0 then "i128" else "u128"
  | .decimal t => s!"floating point `{t}`"
  | .text s => "string " ++ Text.quote s
  | .sequence => "sequence"
  | .mapping => "map"

def digitValue? (base : Nat) (c : Char) : Option Nat := (hexDigit? c).filter (· < base)

def natural? (base : Nat) : List Char → Option Nat
  | [] => none
  | cs => cs.foldlM (fun n c => (digitValue? base c).map (n * base + ·)) 0

def digits? (base max : Nat) (cs : List Char) : Option Nat := (natural? base cs).filter (· ≤ max)

def marked? : List Char → Option (Nat × List Char)
  | '0' :: 'x' :: cs => some (16, cs)
  | '0' :: 'o' :: cs => some (8, cs)
  | '0' :: 'b' :: cs => some (2, cs)
  | _ => none

def dropPlus : List Char → List Char
  | '+' :: cs => cs
  | cs => cs

def dropSign : List Char → List Char
  | '+' :: cs | '-' :: cs => cs
  | cs => cs

def isZeroFilled (cs : List Char) : Bool :=
  match dropSign cs with
  | '0' :: d :: ds => (d :: ds).all Char.isDigit
  | _ => false

def unsigned? (max : Nat) (cs : List Char) : Option Nat :=
  match marked? (dropPlus cs) with
  | some (base, ds) => digits? base max ds
  | none => if isZeroFilled cs then none else digits? 10 max (dropPlus cs)

def negative? (limit : Nat) (cs : List Char) : Option Int :=
  match cs with
  | '-' :: ds =>
    match marked? ds with
    | some (base, ds) => (digits? base limit ds).map (-·)
    | none => if isZeroFilled cs then none else (digits? 10 limit ds).map (-·)
  | _ => none

def integer? (cs : List Char) : Option Value :=
  match unsigned? (Nat.pow 2 64 - 1) cs, negative? (Nat.pow 2 63) cs with
  | some n, _ => some (.integer n)
  | _, some n => some (.integer n)
  | none, none =>
    match unsigned? (Nat.pow 2 128 - 1) cs, negative? (Nat.pow 2 127) cs with
    | some n, _ => some (.wide n)
    | _, some n => some (.wide n)
    | none, none => none

structure Decimal where
  digits : List Char
  exponent : Int

def exponent? : List Char → Option Int
  | [] => some 0
  | e :: cs =>
    if e != 'e' && e != 'E' then none
    else match cs with
      | '-' :: ds => (natural? 10 ds).map (-·)
      | ds => (natural? 10 (dropPlus ds)).map (·)

def Decimal.parse? (cs : List Char) : Option Decimal :=
  let whole := cs.takeWhile Char.isDigit
  let rest := cs.dropWhile Char.isDigit
  let (part, rest) := match rest with
    | '.' :: r => (r.takeWhile Char.isDigit, r.dropWhile Char.isDigit)
    | r => ([], r)
  if whole.isEmpty && part.isEmpty then none
  else (exponent? rest).map fun e => ⟨whole ++ part, e - part.length⟩

/-- Whether the nearest double is finite: whether the decimal is less than `2^1024 - 2^970`. -/
def Decimal.isFinite (d : Decimal) : Bool :=
  let ds := d.digits.dropWhile (· == '0')
  let magnitude := ds.length + d.exponent
  if ds.isEmpty || magnitude < 300 then true
  else if 310 < magnitude then false
  else
    let m := ds.foldl (fun n c => n * 10 + (c.toNat - '0'.toNat)) 0
    let top := Nat.pow 2 1024 - Nat.pow 2 970
    if 0 ≤ d.exponent then m * Nat.pow 10 d.exponent.toNat < top
    else m < top * Nat.pow 10 (-d.exponent).toNat

def specials : List String := [".inf", ".Inf", ".INF", "+.inf", "+.Inf", "+.INF", "-.inf", "-.Inf", "-.INF",
  ".nan", ".NaN", ".NAN"]

def isDecimal (s : String) : Bool :=
  specials.contains s ||
    ((Decimal.parse? (dropSign s.toList)).any (·.isFinite) && !isZeroFilled s.toList)

def isNull (s : String) : Bool := ["null", "Null", "NULL", "~"].contains s

def flag? (s : String) : Option Bool :=
  if ["true", "True", "TRUE"].contains s then some true
  else if ["false", "False", "FALSE"].contains s then some false
  else none

def plainValue (s : String) : Value :=
  if s.isEmpty || isNull s then .null
  else match flag? s with
    | some b => .flag b
    | none => (integer? s.toList).getD (if isDecimal s then .decimal s else .text s)

namespace Tag

def flag : String := "tag:yaml.org,2002:bool"
def integer : String := "tag:yaml.org,2002:int"
def decimal : String := "tag:yaml.org,2002:float"
def null : String := "tag:yaml.org,2002:null"

end Tag

def isLocal (tag : String) : Bool := tag.startsWith "!"

def tagFault (s wanted : String) : String :=
  "invalid value: string " ++ Text.quote s ++ ", expected " ++ wanted

def scalarValue (tag : Option String) (style : Style) (s : String) : Except String Value :=
  let known (v : Option Value) (wanted : String) : Except String Value :=
    match v with | some v => .ok v | none => .error (tagFault s wanted)
  match tag with
  | none => .ok (if style == .plain then plainValue s else .text s)
  | some t =>
    if t == Tag.flag then known ((flag? s).map .flag) "a boolean"
    else if t == Tag.integer then known (integer? s.toList) "an integer"
    else if t == Tag.decimal then
      known (if specials.contains s || (Decimal.parse? (dropSign s.toList)).any (·.isFinite)
        then some (.decimal s) else none) "a float"
    else if t == Tag.null then known (if isNull s then some .null else none) "null"
    else if isLocal t && style == .plain then .ok (plainValue s)
    else .ok (.text s)

end TwoHop.Yaml
