namespace TwoHop.Yaml

structure Place where
  index : Nat := 0
  line : Nat := 0
  column : Nat := 0
  deriving DecidableEq, Repr, Inhabited

namespace Place

def right (p : Place) (n : Nat) : Place := { p with index := p.index + n, column := p.column + n }

def down (p : Place) (n : Nat) : Place := ⟨p.index + n, p.line + 1, 0⟩

def isStart (p : Place) : Bool := p.line == 0 && p.column == 0

def text (p : Place) : String := s!"line {p.line + 1} column {p.column + 1}"

def suffix (p : Place) : String := if p.isStart then "" else " at " ++ p.text

end Place

structure Fault where
  problem : String
  place : Place := {}
  context : Option String := none
  since : Place := {}
  deriving DecidableEq, Repr, Inhabited

def Fault.text (f : Fault) : String :=
  f.problem ++ f.place.suffix ++
    match f.context with
    | none => ""
    | some c =>
      let same := f.since.line == f.place.line && f.since.column == f.place.column
      ", " ++ c ++ if same then "" else f.since.suffix

structure Cursor where
  place : Place := {}
  rest : List Char
  deriving Inhabited

def isBreak (c : Char) : Bool := "\n\r\u0085\u2028\u2029".toList.contains c

def isBlank (c : Char) : Bool := c == ' ' || c == '\t'

def isBlankOrBreak (c : Char) : Bool := isBlank c || isBreak c

def isWord (c : Char) : Bool := c.isAlphanum || c == '_' || c == '-'

def atGap : List Char → Bool
  | [] => true
  | c :: _ => isBlankOrBreak c

def atMark : List Char → Bool
  | '-' :: '-' :: '-' :: cs => atGap cs
  | '.' :: '.' :: '.' :: cs => atGap cs
  | _ => false

def breakText (c : Char) : Char := if c == '\u2028' || c == '\u2029' then c else '\n'

def breakWidth : List Char → Nat
  | '\r' :: '\n' :: _ => 2
  | _ => 1

theorem breakWidth_pos (cs : List Char) : 0 < breakWidth cs := by
  unfold breakWidth
  split <;> decide

namespace Cursor

def skip (c : Cursor) (n : Nat := 1) : Cursor := ⟨c.place.right n, c.rest.drop n⟩

def skipBreak (c : Cursor) : Cursor := ⟨c.place.down (breakWidth c.rest), c.rest.drop (breakWidth c.rest)⟩

def skipWhile (p : Char → Bool) (c : Cursor) : Cursor := c.skip (c.rest.takeWhile p).length

def skipBlanks (c : Cursor) : Cursor := c.skipWhile isBlank

def skipComment (c : Cursor) : Cursor :=
  match c.rest with
  | '#' :: _ => c.skipWhile (!isBreak ·)
  | _ => c

def skipBreak? (c : Cursor) : Cursor :=
  match c.rest with
  | ch :: _ => if isBreak ch then c.skipBreak else c
  | [] => c

def finishLine? (c : Cursor) : Option Cursor :=
  let c := c.skipBlanks.skipComment
  match c.rest with
  | [] => some c
  | ch :: _ => if isBreak ch then some c.skipBreak else none

def isOver (c : Cursor) : Bool := c.rest.isEmpty

@[simp] theorem rest_skip (c : Cursor) (n : Nat) : (c.skip n).rest = c.rest.drop n := rfl

end Cursor

end TwoHop.Yaml
