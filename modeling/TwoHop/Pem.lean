import TwoHop.Token.Base64

namespace TwoHop.Pem

inductive Kind
  | certificate | key | other
  deriving DecidableEq, Repr

structure Section where
  kind : Kind
  der : ByteArray
  deriving DecidableEq

def kind? : String → Option Kind
  | "CERTIFICATE" => some .certificate
  | "RSA PRIVATE KEY" | "PRIVATE KEY" | "EC PRIVATE KEY" => some .key
  | "PUBLIC KEY" | "X509 CRL" | "CERTIFICATE REQUEST" | "ECHCONFIG" => some .other
  | _ => none

def isLineEnd (c : Char) : Bool := c == '\n' || c == '\r'

def lines : List Char → List (List Char)
  | [] => [[]]
  | c :: cs =>
    if isLineEnd c then [] :: lines cs
    else match lines cs with
      | l :: ls => (c :: l) :: ls
      | [] => [[c]]

def dropBegin? (line : List Char) : Option (List Char) :=
  let start := "-----BEGIN ".toList
  if start.isPrefixOf line then some (line.drop start.length) else none

def isRule (c : Char) : Bool := c == '-' || c == ' '

def label? (rest : List Char) : Option (List Char) :=
  let rule := (rest.reverse.takeWhile isRule)
  if rule.count '-' ≠ 5 then none
  else some (rest.take (rest.length - (rule.reverse.dropWhile (· == ' ')).length))

def isEnd (label line : List Char) : Bool :=
  ("-----END ".toList ++ label ++ "-----".toList).isPrefixOf line

def isSpace (c : Char) : Bool := c.isWhitespace || c == '\x0B' || c == '\x0C'

def value? (c : Char) : Option Nat :=
  match c with
  | '+' => Base64.value? '-'
  | '/' => Base64.value? '_'
  | '-' | '_' => none
  | c => Base64.value? c

def bytes? (text : List Char) : Option ByteArray := do
  let cs := text.filter (!isSpace ·)
  let pads := (cs.reverse.takeWhile (· == '=')).length
  if cs.length % 4 ≠ 0 ∨ 2 < pads then none
  else
    let values ← (cs.take (cs.length - pads)).mapM value?
    return ⟨(Base64.groupBytes values).toArray⟩

/-- Goes through the lines, `label` being that of the open section and `text` what it holds so far.
The second part tells whether all is well to the end. -/
def scan : List (List Char) → Option (List Char) → List Char → List Section × Bool
  | [], label, _ => ([], label.isNone)
  | line :: ls, label, text =>
    match dropBegin? line with
    | some rest => match label? rest with
      | none => ([], false)
      | some label => scan ls (some label) text
    | none => match label with
      | none => scan ls none text
      | some l =>
        if !isEnd l line then scan ls (some l) (text ++ line)
        else match kind? (.ofList l), bytes? text with
          | none, _ => scan ls none []
          | some _, none => ([], false)
          | some kind, some der =>
            let (sections, fine) := scan ls none []
            (⟨kind, der⟩ :: sections, fine)

def sections (text : String) : List Section × Bool := scan (lines text.toList) none []

def certificates? (text : String) : Option (List ByteArray) :=
  let (sections, fine) := sections text
  if fine then some ((sections.filter (·.kind == .certificate)).map (·.der)) else none

def key (text : String) : Except Unit (Option ByteArray) :=
  let (sections, fine) := sections text
  match sections.find? (·.kind == .key) with
  | some s => .ok (some s.der)
  | none => if fine then .ok none else .error ()

end TwoHop.Pem
