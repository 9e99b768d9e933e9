import TwoHop.Yaml.Cursor

namespace TwoHop.Yaml

inductive Style
  | plain | single | double | literal | folded
  deriving DecidableEq, Repr, Inhabited

inductive Gap
  | blanks (text : List Char)
  | breaks (first : Option Char) (more : List Char)
  deriving DecidableEq, Repr, Inhabited

namespace Gap

def none : Gap := .blanks []

def blank (c : Char) : Gap → Gap
  | .blanks cs => .blanks (cs ++ [c])
  | g => g

def newline (c : Char) : Gap → Gap
  | .blanks _ => .breaks (some c) []
  | .breaks first more => .breaks first (more ++ [c])

def isNone : Gap → Bool
  | .blanks [] => true
  | _ => false

def isBroken : Gap → Bool
  | .blanks _ => false
  | .breaks .. => true

def text : Gap → List Char
  | .blanks cs => cs
  | .breaks (some '\n') [] => [' ']
  | .breaks (some '\n') more => more
  | .breaks first more => first.toList ++ more

end Gap

structure Reading where
  text : String
  broken : Bool
  next : Cursor
  deriving Inhabited

def addGap (text : String) (g : Gap) : String := text ++ .ofList g.text

def isFlowMark (c : Char) : Bool := ",[]{}".toList.contains c

def endsPlain (flow : Bool) (c : Char) (rest : List Char) : Bool :=
  (c == ':' && atGap rest) || (flow && isFlowMark c)

def stopsPlain (flow : Bool) (floor : Nat) (cs : List Char) (p : Place) : Bool :=
  (!flow && p.column < floor) || (p.column == 0 && atMark cs) || cs.head? == some '#'

def isMisplacedColon (c : Char) : List Char → Bool
  | d :: _ => c == ':' && (d == '?' || isFlowMark d)
  | [] => false

def plainFrom (flow : Bool) (floor : Nat) (start : Place) :
    List Char → Place → Gap → String → Except Fault Reading
  | [], p, g, text => .ok ⟨text, g.isBroken, p, []⟩
  | c :: cs, p, g, text =>
    let stop : Except Fault Reading := .ok ⟨text, g.isBroken, p, c :: cs⟩
    if isBlank c then
      if g.isBroken && p.column < floor && c == '\t' then
        .error ⟨"found a tab character that violates indentation", p, "while scanning a plain scalar", start⟩
      else plainFrom flow floor start cs (p.right 1) (g.blank c) text
    else if isBreak c then
      match c, cs with
      | '\r', '\n' :: cs => plainFrom flow floor start cs (p.down 2) (g.newline '\n') text
      | c, cs => plainFrom flow floor start cs (p.down 1) (g.newline (breakText c)) text
    else if !g.isNone && stopsPlain flow floor (c :: cs) p then stop
    else if flow && isMisplacedColon c cs then
      .error ⟨"found unexpected ':'", p, "while scanning a plain scalar", start⟩
    else if endsPlain flow c cs then stop
    else plainFrom flow floor start cs (p.right 1) .none ((addGap text g).push c)

def plain (flow : Bool) (floor : Nat) (c : Cursor) : Except Fault Reading :=
  plainFrom flow floor c.place c.rest c.place .none ""

def escapes : List (Char × Char) := [
  ('0', '\x00'), ('a', '\x07'), ('b', '\x08'), ('t', '\t'), ('\t', '\t'), ('n', '\n'), ('v', '\x0B'),
  ('f', '\x0C'), ('r', '\r'), ('e', '\x1B'), (' ', ' '), ('"', '"'), ('/', '/'), ('\\', '\\'),
  ('N', '\u0085'), ('_', '\u00A0'), ('L', '\u2028'), ('P', '\u2029')]

def hexDigit? (c : Char) : Option Nat :=
  if c.isDigit then some (c.toNat - '0'.toNat)
  else if 'a' ≤ c ∧ c ≤ 'f' then some (c.toNat - 'a'.toNat + 10)
  else if 'A' ≤ c ∧ c ≤ 'F' then some (c.toNat - 'A'.toNat + 10)
  else none

def hexNumber? (cs : List Char) : Option Nat :=
  cs.foldlM (fun n c => (hexDigit? c).map (n * 16 + ·)) 0

def scalarValue? (n : Nat) : Option Char := if h : n.isValidChar then some (.ofNatAux n h) else none

def escapeWidth? : Char → Option Nat
  | 'x' => some 2
  | 'u' => some 4
  | 'U' => some 8
  | _ => none

def escape (letter : Char) (cs : List Char) : Except (String × Nat) (Char × Nat) :=
  match escapeWidth? letter with
  | none => match escapes.lookup letter with
    | some c => .ok (c, 0)
    | none => .error ("found unknown escape character", 0)
  | some width =>
    match if cs.length < width then none else hexNumber? (cs.take width) with
    | none => .error ("did not find expected hexdecimal number", 2)
    | some n => match scalarValue? n with
      | some c => .ok (c, width)
      | none => .error ("found invalid Unicode character escape code", 2)

def quotedFrom (single : Bool) (start : Place) (cs : List Char) (p : Place) (g : Gap) (text : String) :
    Except Fault Reading :=
  if p.column = 0 ∧ atMark cs then
    .error ⟨"found unexpected document indicator", p, "while scanning a quoted scalar", start⟩
  else match cs with
  | [] => .error ⟨"found unexpected end of stream", p, "while scanning a quoted scalar", start⟩
  | c :: cs =>
    if isBlank c then quotedFrom single start cs (p.right 1) (g.blank c) text
    else if isBreak c then
      match c, cs with
      | '\r', '\n' :: cs => quotedFrom single start cs (p.down 2) (g.newline '\n') text
      | c, cs => quotedFrom single start cs (p.down 1) (g.newline (breakText c)) text
    else
      let text := addGap text g
      match single, c, cs with
      | true, '\'', '\'' :: cs => quotedFrom single start cs (p.right 2) .none (text.push '\'')
      | true, '\'', cs => .ok ⟨text, false, p.right 1, cs⟩
      | false, '"', cs => .ok ⟨text, false, p.right 1, cs⟩
      | false, '\\', '\r' :: '\n' :: cs =>
        quotedFrom single start cs ((p.right 1).down 2) (.breaks none []) text
      | false, '\\', d :: cs =>
        if isBreak d then quotedFrom single start cs ((p.right 1).down 1) (.breaks none []) text
        else match escape d cs with
          | .error (problem, n) =>
            .error ⟨problem, p.right n, "while parsing a quoted scalar", start⟩
          | .ok (e, n) => quotedFrom single start (cs.drop n) (p.right (2 + n)) .none (text.push e)
      | false, '\\', [] =>
        .error ⟨"found unknown escape character", p, "while parsing a quoted scalar", start⟩
      | _, c, cs => quotedFrom single start cs (p.right 1) .none (text.push c)
termination_by cs.length
decreasing_by all_goals simp only [List.length_cons, List.length_drop]; omega

def quoted (single : Bool) (c : Cursor) : Except Fault Reading :=
  quotedFrom single c.place c.skip.rest c.skip.place .none ""

inductive Chomp
  | strip | clip | keep
  deriving DecidableEq, Repr

structure BlockHead where
  chomp : Chomp := .clip
  indent? : Option Nat := none

def chomp? : Char → Option Chomp
  | '+' => some .keep
  | '-' => some .strip
  | _ => none

def blockFault (start : Place) (p : Place) (problem : String) : Fault :=
  ⟨problem, p, "while scanning a block scalar", start⟩

def blockIndent (start : Place) (c : Cursor) : Except Fault (Option Nat × Cursor) :=
  match c.rest with
  | d :: _ =>
    if d == '0' then .error (blockFault start c.place "found an indentation indicator equal to 0")
    else if d.isDigit then .ok (some (d.toNat - '0'.toNat), c.skip)
    else .ok (none, c)
  | [] => .ok (none, c)

def blockChomp (c : Cursor) : Option (Chomp × Cursor) :=
  match c.rest with
  | d :: _ => (chomp? d).map (·, c.skip)
  | [] => none

def blockHead (start : Place) (c : Cursor) : Except Fault (BlockHead × Cursor) := do
  match blockChomp c with
  | some (chomp, c) =>
    let (indent?, c) ← blockIndent start c
    return (⟨chomp, indent?⟩, c)
  | none =>
    let (indent?, c) ← blockIndent start c
    match indent?, blockChomp c with
    | some _, some (chomp, c) => return (⟨chomp, indent?⟩, c)
    | _, _ => return (⟨.clip, indent?⟩, c)

structure Margin where
  deepest : Nat
  breaks : List Char
  next : Cursor

def spaces (indent? : Option Nat) (cs : List Char) : Nat :=
  let n := (cs.takeWhile (· == ' ')).length
  match indent? with
  | some k => min k n
  | none => n

def marginFrom (start : Place) (indent? : Option Nat) (cs : List Char) (p : Place) (deepest : Nat)
    (breaks : List Char) : Except Fault Margin :=
  let n := spaces indent? cs
  let p := p.right n
  let deepest := max deepest p.column
  match _ : cs.drop n with
  | [] => .ok ⟨deepest, breaks, p, []⟩
  | c :: rest =>
    let inside := match indent? with | some k => p.column < k | none => true
    if inside && c == '\t' then
      .error (blockFault start p "found a tab character where an indentation space is expected")
    else if isBreak c then
      let width := breakWidth (c :: rest)
      marginFrom start indent? ((c :: rest).drop width) (p.down width) deepest (breaks ++ [breakText c])
    else .ok ⟨deepest, breaks, p, c :: rest⟩
termination_by cs.length
decreasing_by
  rename_i h _ _
  have := breakWidth_pos (c :: rest)
  have hl : (cs.drop n).length = (c :: rest).length := by rw [h]
  simp only [List.length_drop, List.length_cons] at hl ⊢
  omega

def margin (start : Place) (indent? : Option Nat) (c : Cursor) : Except Fault Margin :=
  marginFrom start indent? c.rest c.place 0 []

structure Block where
  text : String := ""
  first : List Char := []
  more : List Char := []
  blank : Bool := false

/-- The block with one more line. Between two lines that begin without white space, a fold turns
the line break into a space. -/
def Block.line (b : Block) (fold : Bool) (line : List Char) : Block :=
  let blank := line.head?.any isBlank
  let joint :=
    if fold && b.first == ['\n'] && !b.blank && !blank then (if b.more.isEmpty then [' '] else [])
    else b.first
  { text := b.text ++ .ofList (joint ++ b.more ++ line), blank }

def Block.result (b : Block) : Chomp → String
  | .strip => b.text
  | .clip => b.text ++ .ofList b.first
  | .keep => b.text ++ .ofList (b.first ++ b.more)

theorem length_marginFrom_le {start : Place} {indent? : Option Nat} {cs : List Char} {p : Place}
    {deepest : Nat} {breaks : List Char} {m : Margin}
    (h : marginFrom start indent? cs p deepest breaks = .ok m) : m.next.rest.length ≤ cs.length := by
  fun_induction marginFrom start indent? cs p deepest breaks with
  | case1 => cases h; simp
  | case2 => cases h
  | case3 cs p d b n p' d' c rest hd _ _ _ width ih =>
    have hl : (cs.drop n).length = (c :: rest).length := by rw [hd]
    have := ih h
    simp only [List.length_drop, List.length_cons] at this hl
    omega
  | case4 cs p d b n p' d' c rest hd =>
    have hl : (cs.drop n).length = (c :: rest).length := by rw [hd]
    cases h
    simp only [List.length_drop, List.length_cons] at hl ⊢
    omega

def blockLines (fold : Bool) (start : Place) (indent : Nat) (c : Cursor) (b : Block) :
    Except Fault (Block × Cursor) :=
  match _ : c.rest with
  | [] => .ok (b, c)
  | ch :: rest =>
    if c.place.column ≠ indent ∨ isBreak ch then .ok (b, c)
    else
      let line := ch :: rest.takeWhile (!isBreak ·)
      let after := c.skip line.length
      match _ : margin start (some indent) after.skipBreak? with
      | .error e => .error e
      | .ok m =>
        blockLines fold start indent m.next
          { b.line fold line with first := after.rest.head?.toList.map breakText, more := m.breaks }
termination_by c.rest.length
decreasing_by
  have hm : m.next.rest.length ≤ after.skipBreak?.rest.length := length_marginFrom_le ‹_›
  have hs : after.skipBreak?.rest.length ≤ after.rest.length := by
    unfold Cursor.skipBreak?
    split
    · split
      · simp [Cursor.skipBreak]
      · exact Nat.le_refl _
    · exact Nat.le_refl _
  have ha : after.rest.length < c.rest.length := by
    simp only [after, line, Cursor.rest_skip, List.length_drop, List.length_cons, ‹c.rest = ch :: rest›]
    omega
  omega

def block (fold : Bool) (floor : Nat) (c : Cursor) : Except Fault Reading := do
  let start := c.place
  let (head, c) ← blockHead start c.skip
  match c.finishLine? with
  | none =>
    .error (blockFault start c.skipBlanks.place "did not find expected comment or line break")
  | some c =>
    let m ← margin start (head.indent?.map (floor - 1 + ·)) c
    let indent := (head.indent?.map (floor - 1 + ·)).getD (max (max m.deepest floor) 1)
    let (b, c) ← blockLines fold start indent m.next { more := m.breaks }
    return ⟨b.result head.chomp, true, c⟩

end TwoHop.Yaml
