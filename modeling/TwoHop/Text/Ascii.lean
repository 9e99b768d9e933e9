namespace TwoHop.Text

def lower (s : String) : String := s.map Char.toLower

def upper (s : String) : String := s.map Char.toUpper

def sameIgnoringCase (s t : String) : Bool := lower s == lower t

def isTokenChar (c : Char) : Bool :=
  c.isAlphanum || "!#$%&'*+-.^_`|~".toList.contains c

def isToken (s : String) : Bool :=
  !s.isEmpty && s.toList.all isTokenChar

def isVisible (b : UInt8) : Bool := (0x20 ≤ b && b ≤ 0x7E) || b == 0x09

def digit? (c : Char) : Option Nat :=
  if c.isDigit then some (c.toNat - '0'.toNat) else none

def digitsFrom (max acc : Nat) : List Char → Option Nat
  | [] => some acc
  | c :: cs => do
    let d ← digit? c
    let acc := acc * 10 + d
    if acc ≤ max then digitsFrom max acc cs else none

def decimal? (max : Nat) (cs : List Char) : Option Nat :=
  match cs with
  | '+' :: d :: ds => digitsFrom max 0 (d :: ds)
  | '+' :: [] => none
  | [] => none
  | ds => digitsFrom max 0 ds

end TwoHop.Text
