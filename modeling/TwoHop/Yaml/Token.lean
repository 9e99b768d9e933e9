import TwoHop.Bytes
import TwoHop.Yaml.Scalar

/-! Documents as tokens. Block structure is told from indentation, and a mapping key is recognised
when the colon behind it is reached: its mark is then put in ahead of it. -/

namespace TwoHop.Yaml

inductive Symbol
  | version (major minor : Nat)
  | handle (name start : String)
  | documentStart | documentEnd | streamEnd
  | blockSequence | blockMapping | blockEnd
  | flowSequence | flowSequenceEnd | flowMapping | flowMappingEnd | flowEntry
  | entry | key | value
  | alias (name : String)
  | anchor (name : String)
  | tag (handle rest : String)
  | scalar (text : String) (style : Style)
  deriving DecidableEq, Repr, Inhabited

structure Token where
  symbol : Symbol
  place : Place
  finish : Place
  deriving DecidableEq, Repr, Inhabited

def isUriChar (verbatim : Bool) (c : Char) : Bool :=
  isWord c || ";/?:@&=+$.!~*'()".toList.contains c || (verbatim && ",[]".toList.contains c)

def trailing? (octet : Nat) : Option Nat :=
  if octet < 0x80 then some 0
  else if octet < 0xC0 then none
  else if octet < 0xE0 then some 1
  else if octet < 0xF0 then some 2
  else if octet < 0xF8 then some 3
  else none

def uriFrom (verbatim : Bool) (fault : Place → String → Fault) :
    List Char → Place → Nat → ByteArray → Except Fault (String × Cursor)
  | '%' :: a :: b :: cs, p, pending, acc =>
    match hexNumber? [a, b], pending with
    | none, _ => .error (fault p "did not find URI escaped octet")
    | some o, 0 => match trailing? o with
      | none => .error (fault p "found an incorrect leading UTF-8 octet")
      | some n => uriFrom verbatim fault cs (p.right 3) n (acc.push o.toUInt8)
    | some o, n + 1 =>
      if o / 0x40 = 2 then uriFrom verbatim fault cs (p.right 3) n (acc.push o.toUInt8)
      else .error (fault p "found an incorrect trailing UTF-8 octet")
  | c :: cs, p, 0, acc =>
    if c == '%' then .error (fault p "did not find URI escaped octet")
    else if isUriChar verbatim c then uriFrom verbatim fault cs (p.right 1) 0 (acc.push c.toNat.toUInt8)
    else .ok (Bytes.lossyText acc, ⟨p, c :: cs⟩)
  | [], p, 0, acc => .ok (Bytes.lossyText acc, ⟨p, []⟩)
  | _, p, _ + 1, _ => .error (fault p "did not find URI escaped octet")

def uri (verbatim directive : Bool) (start : Place) (c : Cursor) : Except Fault (String × Cursor) :=
  let context := if directive then "while parsing a %TAG directive" else "while parsing a tag"
  uriFrom verbatim (fun p problem => ⟨problem, p, context, start⟩) c.rest c.place 0 .empty

def nonemptyUri (verbatim directive : Bool) (start : Place) (c : Cursor) : Except Fault (String × Cursor) := do
  let (text, next) ← uri verbatim directive start c
  if text.isEmpty then
    let context := if directive then "while parsing a %TAG directive" else "while parsing a tag"
    throw ⟨"did not find expected tag URI", next.place, context, start⟩
  return (text, next)

def words (c : Cursor) : String × Cursor := (.ofList (c.rest.takeWhile isWord), c.skipWhile isWord)

def handle? (c : Cursor) : Option (String × Cursor) :=
  match c.rest with
  | '!' :: _ =>
    let (name, c) := words c.skip
    match c.rest with
    | '!' :: _ => some ("!" ++ name ++ "!", c.skip)
    | _ => some ("!" ++ name, c)
  | _ => none

def tagSymbol (start : Place) (c : Cursor) : Except Fault (Symbol × Cursor) := do
  match c.rest with
  | '!' :: '<' :: _ =>
    let (text, c) ← nonemptyUri true false start (c.skip 2)
    match c.rest with
    | '>' :: _ => return (.tag "" text, c.skip)
    | _ => throw ⟨"did not find the expected '>'", c.place, "while scanning a tag", start⟩
  | _ =>
    match handle? c with
    | none => throw ⟨"did not find expected '!'", c.place, "while scanning a tag", start⟩
    | some (name, c) =>
      if name.length > 1 && name.endsWith "!" then
        let (text, c) ← nonemptyUri false false start c
        return (.tag name text, c)
      else
        let (text, c) ← uri false false start c
        let text := .ofList (name.toList.drop 1) ++ text
        return (if text.isEmpty then .tag "" "!" else .tag "!" text, c)

def tagToken (flow : Bool) (c : Cursor) : Except Fault (Symbol × Cursor) := do
  let start := c.place
  let (symbol, c) ← tagSymbol start c
  if (flow && c.rest.head? == some ',') || atGap c.rest then return (symbol, c)
  else throw ⟨"did not find expected whitespace or line break", c.place, "while scanning a tag", start⟩

def versionNumber (start : Place) (c : Cursor) : Except Fault (Nat × Cursor) :=
  let digits := c.rest.takeWhile Char.isDigit
  let fault (n : Nat) (problem : String) : Fault :=
    ⟨problem, c.place.right n, "while scanning a %YAML directive", start⟩
  if digits.length > 9 then .error (fault 9 "found extremely long version number")
  else if digits.isEmpty then .error (fault 0 "did not find expected version number")
  else .ok (digits.foldl (fun n d => n * 10 + (d.toNat - '0'.toNat)) 0, c.skip digits.length)

def versionSymbol (start : Place) (c : Cursor) : Except Fault (Symbol × Cursor) := do
  let (major, c) ← versionNumber start c.skipBlanks
  match c.rest with
  | '.' :: _ =>
    let (minor, c) ← versionNumber start c.skip
    return (.version major minor, c)
  | _ =>
    throw ⟨"did not find expected digit or '.' character", c.place, "while scanning a %YAML directive", start⟩

def handleSymbol (start : Place) (c : Cursor) : Except Fault (Symbol × Cursor) := do
  let c := c.skipBlanks
  let fault (p : Place) (problem context : String) : Fault := ⟨problem, p, some context, start⟩
  match handle? c with
  | none => throw (fault c.place "did not find expected '!'" "while scanning a tag directive")
  | some (name, c) =>
    if name.length > 1 && !name.endsWith "!" then
      throw (fault c.place "did not find expected '!'" "while parsing a tag directive")
    if !c.rest.head?.any isBlank then
      throw (fault c.place "did not find expected whitespace" "while scanning a %TAG directive")
    let (text, c) ← nonemptyUri true true start c.skipBlanks
    if !atGap c.rest then
      throw (fault c.place "did not find expected whitespace or line break" "while scanning a %TAG directive")
    return (.handle name text, c)

def directive (c : Cursor) : Except Fault (Symbol × Place × Cursor) := do
  let start := c.place
  let fault (p : Place) (problem : String) : Fault := ⟨problem, p, "while scanning a directive", start⟩
  let (name, c) := words c.skip
  if name.isEmpty then throw (fault c.place "could not find expected directive name")
  if !atGap c.rest then throw (fault c.place "found unexpected non-alphabetical character")
  let (symbol, c) ← match name with
    | "YAML" => versionSymbol start c
    | "TAG" => handleSymbol start c
    | _ => .error (fault c.place "found unknown directive name")
  match c.finishLine? with
  | some next => return (symbol, c.place, next)
  | none => throw (fault c.skipBlanks.place "did not find expected comment or line break")

structure Candidate where
  required : Bool
  index : Nat
  place : Place
  deriving Repr, Inhabited

/-- A key is on one line, and at most 1024 characters long. -/
def Candidate.isStale (k : Candidate) (now : Place) : Bool :=
  k.place.line < now.line || k.place.index + 1024 < now.index

structure Lexer where
  cursor : Cursor
  tokens : Array Token := #[]
  floor : Nat := 0
  outer : List Nat := []
  keyAllowed : Bool := true
  key : Option Candidate := none
  outerKeys : List (Option Candidate) := []

namespace Lexer

def place (l : Lexer) : Place := l.cursor.place

def inFlow (l : Lexer) : Bool := !l.outerKeys.isEmpty

def push (l : Lexer) (symbol : Symbol) (place finish : Place) : Lexer :=
  { l with tokens := l.tokens.push ⟨symbol, place, finish⟩ }

def fault (l : Lexer) (problem : String) : Fault := { problem, place := l.place }

def keyFault (l : Lexer) (k : Candidate) : Fault :=
  ⟨"could not find expected ':'", l.place, "while scanning a simple key", k.place⟩

def candidates (l : Lexer) : List Candidate := l.outerKeys.reverse.reduceOption ++ l.key.toList

def dropKey (l : Lexer) : Except Fault Lexer :=
  match l.key with
  | some k => if k.required then .error (l.keyFault k) else .ok { l with key := none }
  | none => .ok l

def dropStale (l : Lexer) : Except Fault Lexer :=
  match l.candidates.find? fun k => k.required && k.isStale l.place with
  | some k => .error (l.keyFault k)
  | none =>
    let fresh (k : Option Candidate) : Option Candidate := k.filter (!·.isStale l.place)
    .ok { l with key := fresh l.key, outerKeys := l.outerKeys.map fresh }

def saveKey (l : Lexer) : Except Fault Lexer := do
  if !l.keyAllowed then return l
  let required := !l.inFlow && l.floor == l.place.column + 1
  let k : Candidate := ⟨required, l.tokens.size, l.place⟩
  let l ← l.dropKey
  return { l with key := some k }

def openBlock (l : Lexer) (symbol : Symbol) (column index : Nat) (p : Place) : Lexer :=
  if l.inFlow || column < l.floor then l
  else { l with
    floor := column + 1
    outer := l.floor :: l.outer
    tokens := l.tokens.insertIdxIfInBounds index ⟨symbol, p, p⟩ }

def closeFrom (p : Place) (floor : Nat) (tokens : Array Token) (limit : Nat) : List Nat → Nat × List Nat × Array Token
  | [] => (floor, [], tokens)
  | f :: fs =>
    if floor ≤ limit then (floor, f :: fs, tokens)
    else closeFrom p f (tokens.push ⟨.blockEnd, p, p⟩) limit fs

def closeBlocks (l : Lexer) (limit : Nat) : Lexer :=
  if l.inFlow then l
  else
    let (floor, outer, tokens) := closeFrom l.place l.floor l.tokens limit l.outer
    { l with floor, outer, tokens }

def skipSpace (tabs flow : Bool) : List Char → Place → Bool → Place × List Char × Bool
  | [], p, allowed => (p, [], allowed)
  | c :: cs, p, allowed =>
    if c == ' ' || (c == '\t' && (tabs || !allowed)) then skipSpace tabs flow cs (p.right 1) allowed
    else if c == '#' then skipComment tabs flow cs (p.right 1) allowed
    else if isBreak c then
      match c, cs with
      | '\r', '\n' :: cs => skipSpace tabs flow cs (p.down 2) (allowed || !flow)
      | _, cs => skipSpace tabs flow cs (p.down 1) (allowed || !flow)
    else (p, c :: cs, allowed)
where
  skipComment (tabs flow : Bool) : List Char → Place → Bool → Place × List Char × Bool
    | [], p, allowed => (p, [], allowed)
    | c :: cs, p, allowed =>
      if !isBreak c then skipComment tabs flow cs (p.right 1) allowed
      else match c, cs with
        | '\r', '\n' :: cs => skipSpace tabs flow cs (p.down 2) (allowed || !flow)
        | _, cs => skipSpace tabs flow cs (p.down 1) (allowed || !flow)

def toNext (l : Lexer) : Lexer :=
  let c := match l.cursor.rest with
    | '\uFEFF' :: _ => if l.place.index = 0 then l.cursor.skip else l.cursor
    | _ => l.cursor
  let (p, rest, allowed) := skipSpace l.inFlow l.inFlow c.rest c.place l.keyAllowed
  { l with cursor := ⟨p, rest⟩, keyAllowed := allowed }

def take (l : Lexer) (symbol : Symbol) (n : Nat := 1) : Lexer :=
  { l.push symbol l.place (l.place.right n) with cursor := l.cursor.skip n }

def endStream (l : Lexer) : Except Fault Lexer := do
  let p := if l.place.column = 0 then l.place else ⟨l.place.index, l.place.line + 1, 0⟩
  let l ← ({ l with cursor.place := p }.closeBlocks 0).dropKey
  return { l.push .streamEnd p p with keyAllowed := false }

def readDirective (l : Lexer) : Except Fault Lexer := do
  let l ← (l.closeBlocks 0).dropKey
  let (symbol, finish, next) ← directive l.cursor
  return { l.push symbol l.place finish with cursor := next, keyAllowed := false }

def readMark (l : Lexer) (symbol : Symbol) : Except Fault Lexer := do
  let l ← (l.closeBlocks 0).dropKey
  return { l.take symbol 3 with keyAllowed := false }

def openFlow (l : Lexer) (symbol : Symbol) : Except Fault Lexer := do
  let l ← l.saveKey
  return { l.take symbol with keyAllowed := true, key := none, outerKeys := l.key :: l.outerKeys }

def closeFlow (l : Lexer) (symbol : Symbol) : Except Fault Lexer := do
  let l ← l.dropKey
  let l := match l.outerKeys with
    | k :: ks => { l with key := k, outerKeys := ks }
    | [] => l
  return { l.take symbol with keyAllowed := false }

def readFlowEntry (l : Lexer) : Except Fault Lexer := do
  let l ← l.dropKey
  return { l.take .flowEntry with keyAllowed := true }

def readEntry (l : Lexer) : Except Fault Lexer := do
  if !l.inFlow && !l.keyAllowed then
    throw (l.fault "block sequence entries are not allowed in this context")
  let l ← (l.openBlock .blockSequence l.place.column l.tokens.size l.place).dropKey
  return { l.take .entry with keyAllowed := true }

def readKey (l : Lexer) : Except Fault Lexer := do
  if !l.inFlow && !l.keyAllowed then throw (l.fault "mapping keys are not allowed in this context")
  let l ← (l.openBlock .blockMapping l.place.column l.tokens.size l.place).dropKey
  return { l.take .key with keyAllowed := !l.inFlow }

def readValue (l : Lexer) : Except Fault Lexer := do
  match l.key with
  | some k =>
    let l := { l with tokens := l.tokens.insertIdxIfInBounds k.index ⟨.key, k.place, k.place⟩ }
    let l := l.openBlock .blockMapping k.place.column k.index k.place
    return { l.take .value with key := none, keyAllowed := false }
  | none =>
    if !l.inFlow && !l.keyAllowed then
      throw (l.fault "mapping values are not allowed in this context")
    let l := l.openBlock .blockMapping l.place.column l.tokens.size l.place
    return { l.take .value with keyAllowed := !l.inFlow }

def readName (l : Lexer) (symbol : String → Symbol) (context : String) : Except Fault Lexer := do
  let l ← l.saveKey
  let (name, next) := words l.cursor.skip
  let ends := atGap next.rest || next.rest.head?.any ("?:,]\x7d%@\x60".toList.contains ·)
  if name.isEmpty || !ends then
    throw ⟨"did not find expected alphabetic or numeric character", next.place, some context, l.place⟩
  return { l.push (symbol name) l.place next.place with cursor := next, keyAllowed := false }

def readTag (l : Lexer) : Except Fault Lexer := do
  let l ← l.saveKey
  let (symbol, next) ← tagToken l.inFlow l.cursor
  return { l.push symbol l.place next.place with cursor := next, keyAllowed := false }

def addScalar (l : Lexer) (style : Style) (r : Reading) : Lexer :=
  { l.push (.scalar r.text style) l.place r.next.place with cursor := r.next, keyAllowed := r.broken }

def readBlock (l : Lexer) (fold : Bool) : Except Fault Lexer := do
  let l ← l.dropKey
  return l.addScalar (if fold then .folded else .literal) (← block fold l.floor l.cursor)

def readQuoted (l : Lexer) (single : Bool) : Except Fault Lexer := do
  let l ← l.saveKey
  return l.addScalar (if single then .single else .double) (← quoted single l.cursor)

def readPlain (l : Lexer) : Except Fault Lexer := do
  let l ← l.saveKey
  return l.addScalar .plain (← plain l.inFlow l.floor l.cursor)

def indicators : List Char := "-?:,[]\x7b\x7d#&*!|>'\"%@\x60".toList

def startsPlain (flow : Bool) (c : Char) (cs : List Char) : Bool :=
  !(isBlankOrBreak c || indicators.contains c) || (c == '-' && !cs.head?.any isBlank) ||
    (!flow && (c == '?' || c == ':') && !atGap cs)

def next (l : Lexer) : Except Fault Lexer := do
  let l ← l.toNext.dropStale
  let l := l.closeBlocks (l.place.column + 1)
  match l.cursor.rest with
  | [] => l.endStream
  | c :: cs =>
    let flow := l.inFlow
    if l.place.column == 0 && c == '%' then l.readDirective
    else if l.place.column == 0 && atMark (c :: cs) then
      l.readMark (if c == '-' then .documentStart else .documentEnd)
    else if c == '[' then l.openFlow .flowSequence
    else if c == '\x7b' then l.openFlow .flowMapping
    else if c == ']' then l.closeFlow .flowSequenceEnd
    else if c == '\x7d' then l.closeFlow .flowMappingEnd
    else if c == ',' then l.readFlowEntry
    else if c == '-' && atGap cs then l.readEntry
    else if c == '?' && (flow || atGap cs) then l.readKey
    else if c == ':' && (flow || atGap cs) then l.readValue
    else if c == '*' then l.readName .alias "while scanning an alias"
    else if c == '&' then l.readName .anchor "while scanning an anchor"
    else if c == '!' then l.readTag
    else if c == '|' && !flow then l.readBlock false
    else if c == '>' && !flow then l.readBlock true
    else if c == '\'' then l.readQuoted true
    else if c == '"' then l.readQuoted false
    else if startsPlain flow c cs then l.readPlain
    else throw ⟨"found character that cannot start any token", l.place,
      "while scanning for the next token", l.place⟩

def isDone (l : Lexer) : Bool := l.tokens.back?.any (·.symbol == .streamEnd)

def settled (l : Lexer) : List Token :=
  let open_ := l.candidates.filter (!·.isStale l.place)
  l.tokens.toList.take (open_.foldl (fun n k => min n k.index) l.tokens.size)

/-- The tokens, with the fault that ends them early. Each step but the last takes a character. -/
def run : Nat → Lexer → List Token × Option Fault
  | 0, l => (l.tokens.toList, none)
  | n + 1, l =>
    if l.isDone then (l.tokens.toList, none)
    else match l.next with
      | .ok l => run n l
      | .error f => (l.settled, some f)

end Lexer

def isAllowed (c : Char) : Bool :=
  let n := c.toNat
  n == 0x09 || n == 0x0A || n == 0x0D || (0x20 ≤ n && n ≤ 0x7E) || n == 0x85 ||
    (0xA0 ≤ n && n ≤ 0xD7FF) || (0xE000 ≤ n && n ≤ 0xFFFD) || 0x10000 ≤ n

def badOffset? (at_ : Nat) : List Char → Option Nat
  | [] => none
  | c :: cs => if isAllowed c then badOffset? (at_ + c.utf8Size) cs else some at_

def tokens (text : String) : List Token × Option Fault :=
  match badOffset? 0 text.toList with
  | some 0 => ([], some { problem := "control characters are not allowed" })
  | some n => ([], some { problem := s!"control characters are not allowed at position {n}" })
  | none => Lexer.run (text.length + 2) { cursor := { rest := text.toList } }

end TwoHop.Yaml
