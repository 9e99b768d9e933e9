import TwoHop.Yaml.Token

namespace TwoHop.Yaml

inductive Node
  | scalar (place : Place) (tag : Option String) (style : Style) (text : String)
  | sequence (place : Place) (tag : Option String) (items : List Node)
  | mapping (place : Place) (tag : Option String) (pairs : List (Node × Node))
  | alias (place : Place) (number : Nat)
  deriving Repr, Inhabited

namespace Node

def place : Node → Place
  | .scalar p .. | .sequence p .. | .mapping p .. | .alias p _ => p

def empty (p : Place) : Node := .scalar p none .plain ""

mutual

def size : Node → Nat
  | .scalar .. | .alias .. => 1
  | .sequence _ _ items => 2 + sizeItems items
  | .mapping _ _ pairs => 2 + sizePairs pairs

def sizeItems : List Node → Nat
  | [] => 0
  | x :: xs => x.size + sizeItems xs

def sizePairs : List (Node × Node) → Nat
  | [] => 0
  | (k, v) :: ps => k.size + v.size + sizePairs ps

end

end Node

structure Document where
  root : Node
  anchors : Array (Nat × Node)
  deriving Inhabited

def Document.anchored? (d : Document) (number : Nat) : Option Node :=
  (d.anchors.toList.reverse.find? (·.1 == number)).map (·.2)

structure Composer where
  tokens : List Token
  fault : Option Fault
  handles : List (String × String) := []
  names : List (String × Nat) := []
  anchors : Array (Nat × Node) := #[]

abbrev Compose := StateT Composer (Except Fault)

namespace Compose

def peek : Compose Token := do
  match (← get).tokens with
  | t :: _ => return t
  | [] => throw ((← get).fault.getD default)

def skip : Compose Unit := modify fun c => { c with tokens := c.tokens.drop 1 }

def reserve : Option String → Compose (Option (Nat × Nat))
  | none => return none
  | some name => do
    let c ← get
    let known := (c.names.map (·.1)).eraseDups.length
    set { c with names := (name, known) :: c.names, anchors := c.anchors.push (known, .empty {}) }
    return some (known, c.anchors.size)

def settle (slot : Option (Nat × Nat)) (n : Node) : Compose Node := do
  match slot with
  | some (number, at_) => modify fun c => { c with anchors := c.anchors.setIfInBounds at_ (number, n) }
  | none => pure ()
  return n

structure Properties where
  start : Place
  anchor : Option String := none
  tag : Option (String × String × Place) := none

def anchor (p : Properties) : Compose Properties := do
  match (← peek).symbol with
  | .anchor name => skip; return { p with anchor := some name }
  | _ => return p

def tag (p : Properties) : Compose Properties := do
  let t ← peek
  match t.symbol with
  | .tag handle rest => skip; return { p with tag := some (handle, rest, t.place) }
  | _ => return p

def properties : Compose Properties := do
  let t ← peek
  match t.symbol with
  | .tag .. => anchor (← tag { start := t.place })
  | _ => tag (← anchor { start := t.place })

def resolveTag (p : Properties) : Compose (Option String) := do
  match p.tag with
  | none => return none
  | some ("", rest, _) => return some rest
  | some (handle, rest, place) =>
    match (← get).handles.lookup handle with
    | some start => return some (start ++ rest)
    | none => throw ⟨"found undefined tag handle", place, "while parsing a node", p.start⟩

def reference (t : Token) (name : String) : Compose Node := do
  skip
  match (← get).names.lookup name with
  | some number => return .alias t.place number
  | none => throw { problem := "unknown anchor", place := t.place }

def endsEntry : Symbol → Bool
  | .entry | .blockEnd => true
  | _ => false

def endsIndentless : Symbol → Bool
  | .entry | .key | .value | .blockEnd => true
  | _ => false

def endsPair : Symbol → Bool
  | .key | .value | .blockEnd => true
  | _ => false

def scalarTag (tag : Option String) : Option String := tag.filter (· != "!")

mutual

def node : Nat → Bool → Bool → Compose Node
  | 0, _, _ => throw { problem := "recursion limit exceeded" }
  | n + 1, block, indentless => do
    let t ← peek
    match t.symbol with
    | .alias name => reference t name
    | _ =>
      let p ← properties
      let tag ← resolveTag p
      let t ← peek
      match t.symbol, block, indentless with
      | .entry, _, true =>
        let slot ← reserve p.anchor
        settle slot (.sequence p.start tag (← indentlessItems n))
      | .scalar text style, _, _ =>
        skip
        settle (← reserve p.anchor) (.scalar p.start (scalarTag tag) style text)
      | .flowSequence, _, _ =>
        let slot ← reserve p.anchor
        skip
        settle slot (.sequence p.start tag (← flowItems n t.place true))
      | .flowMapping, _, _ =>
        let slot ← reserve p.anchor
        skip
        settle slot (.mapping p.start tag (← flowPairs n t.place true))
      | .blockSequence, true, _ =>
        let slot ← reserve p.anchor
        skip
        settle slot (.sequence p.start tag (← blockItems n t.place))
      | .blockMapping, true, _ =>
        let slot ← reserve p.anchor
        skip
        settle slot (.mapping p.start tag (← blockPairs n t.place))
      | _, _, _ =>
        if p.anchor.isSome || tag.isSome then
          settle (← reserve p.anchor) (.scalar p.start tag .plain "")
        else
          let context := if block then "while parsing a block node" else "while parsing a flow node"
          throw ⟨"did not find expected node content", t.place, some context, p.start⟩

def blockItems : Nat → Place → Compose (List Node)
  | 0, _ => return []
  | n + 1, start => do
    let t ← peek
    match t.symbol with
    | .entry =>
      skip
      let x ← if endsEntry (← peek).symbol then pure (.empty t.finish) else node n true false
      return x :: (← blockItems n start)
    | .blockEnd => skip; return []
    | _ => throw ⟨"did not find expected '-' indicator", t.place, "while parsing a block collection", start⟩

def indentlessItems : Nat → Compose (List Node)
  | 0 => return []
  | n + 1 => do
    let t ← peek
    match t.symbol with
    | .entry =>
      skip
      let x ← if endsIndentless (← peek).symbol then pure (.empty t.finish) else node n true false
      return x :: (← indentlessItems n)
    | _ => return []

def blockPairs : Nat → Place → Compose (List (Node × Node))
  | 0, _ => return []
  | n + 1, start => do
    let t ← peek
    match t.symbol with
    | .key =>
      skip
      let k ← if endsPair (← peek).symbol then pure (.empty t.finish) else node n true true
      let v ← blockValue n
      return (k, v) :: (← blockPairs n start)
    | .blockEnd => skip; return []
    | _ => throw ⟨"did not find expected key", t.place, "while parsing a block mapping", start⟩

def blockValue : Nat → Compose Node
  | 0 => return .empty {}
  | n + 1 => do
    let t ← peek
    match t.symbol with
    | .value =>
      skip
      if endsPair (← peek).symbol then return .empty t.finish else node n true true
    | _ => return .empty t.place

def flowItems : Nat → Place → Bool → Compose (List Node)
  | 0, _, _ => return []
  | n + 1, start, first => do
    let t ← peek
    match t.symbol with
    | .flowSequenceEnd => skip; return []
    | _ =>
      if !first then
        match t.symbol with
        | .flowEntry => skip
        | _ =>
          throw ⟨"did not find expected ',' or ']'", t.place, "while parsing a flow sequence", start⟩
      let t ← peek
      match t.symbol with
      | .flowSequenceEnd => skip; return []
      | .key =>
        skip
        let k ← flowPairKey n
        let v ← flowValue n .flowSequenceEnd
        return .mapping t.place none [(k, v)] :: (← flowItems n start false)
      | _ =>
        let x ← node n false false
        return x :: (← flowItems n start false)

def flowPairKey : Nat → Compose Node
  | 0 => return .empty {}
  | n + 1 => do
    let t ← peek
    match t.symbol with
    | .value | .flowEntry | .flowSequenceEnd => skip; return .empty t.finish
    | _ => node n false false

def flowValue : Nat → Symbol → Compose Node
  | 0, _ => return .empty {}
  | n + 1, close => do
    let t ← peek
    match t.symbol with
    | .value =>
      skip
      let t ← peek
      if t.symbol == .flowEntry || t.symbol == close then return .empty t.place
      else node n false false
    | _ => return .empty t.place

def flowPairs : Nat → Place → Bool → Compose (List (Node × Node))
  | 0, _, _ => return []
  | n + 1, start, first => do
    let t ← peek
    match t.symbol with
    | .flowMappingEnd => skip; return []
    | _ =>
      if !first then
        match t.symbol with
        | .flowEntry => skip
        | _ =>
          throw ⟨"did not find expected ',' or '\x7d'", t.place, "while parsing a flow mapping", start⟩
      let t ← peek
      match t.symbol with
      | .flowMappingEnd => skip; return []
      | .key =>
        skip
        let k ← flowKey n
        let v ← flowValue n .flowMappingEnd
        return (k, v) :: (← flowPairs n start false)
      | _ =>
        let k ← node n false false
        let v := Node.empty (← peek).place
        return (k, v) :: (← flowPairs n start false)

def flowKey : Nat → Compose Node
  | 0 => return .empty {}
  | n + 1 => do
    let t ← peek
    match t.symbol with
    | .value | .flowEntry | .flowMappingEnd => return .empty t.place
    | _ => node n false false

end

def directives : Nat → Bool → List (String × String) → Compose (List (String × String))
  | 0, _, handles => return handles
  | n + 1, versioned, handles => do
    let t ← peek
    match t.symbol with
    | .version major minor =>
      if versioned then throw { problem := "found duplicate %YAML directive", place := t.place }
      if major != 1 || (minor != 1 && minor != 2) then
        throw { problem := "found incompatible YAML document", place := t.place }
      skip
      directives n true handles
    | .handle name start =>
      if (handles.lookup name).isSome then
        throw { problem := "found duplicate %TAG directive", place := t.place }
      skip
      directives n versioned ((name, start) :: handles)
    | _ => return handles

def usualHandles : List (String × String) := [("!", "!"), ("!!", "tag:yaml.org,2002:")]

def atDocumentEdge : Symbol → Bool
  | .version .. | .handle .. | .documentStart | .documentEnd | .streamEnd => true
  | _ => false

/-- Each call for a node takes a token, or is the last but one before the next is taken. -/
def enough (c : Composer) : Nat := 4 * c.tokens.length + 8

def firstRoot : Compose (Option Node) := do
  let t ← peek
  let n := enough (← get)
  match t.symbol with
  | .streamEnd => return none
  | .version .. | .handle .. | .documentStart =>
    let handles ← directives n false []
    modify ({ · with handles := handles ++ usualHandles })
    let t ← peek
    if t.symbol != .documentStart then
      throw { problem := "did not find expected <document start>", place := t.place }
    skip
    let t ← peek
    if atDocumentEdge t.symbol then return some (.empty t.place) else return some (← node n true false)
  | _ =>
    modify ({ · with handles := usualHandles })
    return some (← node n true false)

def skipEnds : List Token → List Token
  | [] => []
  | t :: ts => if t.symbol == .documentEnd then skipEnds ts else t :: ts

def first : Compose (Option Document × Bool) := do
  match ← firstRoot with
  | none => return (none, true)
  | some root =>
    discard peek
    let c ← get
    return (some ⟨root, c.anchors⟩, (skipEnds c.tokens).head?.any (·.symbol == .streamEnd))

end Compose

def read (text : String) : Except Fault (Option Document × Bool) :=
  let (tokens, fault) := tokens text
  (Compose.first.run { tokens, fault }).map (·.1)

end TwoHop.Yaml
