import TwoHop.Settings.View
import TwoHop.Yaml.Value

/-! Settings read out of a document. A field's scalar is taken for what the field wants; where
fields are gathered first, a scalar is what it is by itself. -/

namespace TwoHop.Yaml

structure Look where
  node : Node
  place : Place
  path : String := ""
  settled : Bool := false
  deriving Inhabited

namespace Look

def fault (l : Look) (problem : String) : String :=
  (if l.path.isEmpty then problem else l.path ++ ": " ++ problem) ++ l.place.suffix

def wrong (l : Look) (wanted : String) : String :=
  let described (v : Value) : String := s!"invalid type: {v.describe}, expected " ++ wanted
  l.fault <| match l.node with
    | .scalar _ tag style text => match scalarValue tag style text with
      | .ok v => described v
      | .error problem => problem
    | .sequence .. => described .sequence
    | .mapping .. | .alias .. => described .mapping

def isBare (style : Style) (text : String) : Bool := style == .plain && text.isEmpty

def admits (tag : Option String) (style : Style) (wanted : String) : Bool :=
  style == .plain || (style == .literal && tag == some wanted)

def text (l : Look) : Except String String :=
  match l.node, l.settled with
  | .scalar _ _ _ s, false => .ok s
  | .scalar _ tag style s, true => match scalarValue tag style s with
    | .ok (.text s) => .ok s
    | _ => .error (l.wrong "a string")
  | _, _ => .error (l.wrong "a string")

def isAbsent (l : Look) : Except String Bool :=
  match l.node with
  | .scalar _ tag style s =>
    if l.settled then .ok (scalarValue tag style s matches .ok .null)
    else if style != .plain then .ok false
    else match tag with
      | none => .ok (s.isEmpty || isNull s)
      | some t =>
        if t != Tag.null then .ok false
        else if isNull s then .ok true
        else .error (l.fault (tagFault s "null"))
  | _ => .ok false

def text? (l : Look) : Except String (Option String) := do
  if ← l.isAbsent then return none else return some (← l.text)

def flag (l : Look) : Except String Bool :=
  match l.node with
  | .scalar _ tag style s =>
    let found := if l.settled then (match scalarValue tag style s with | .ok (.flag b) => some b | _ => none)
      else if admits tag style Tag.flag then flag? s else none
    match found with
    | some b => .ok b
    | none => .error (l.wrong "a boolean")
  | _ => .error (l.wrong "a boolean")

def number (bits : Nat) (l : Look) : Except String Nat :=
  match l.node with
  | .scalar _ tag style s =>
    match if admits tag style Tag.integer then unsigned? (Nat.pow 2 64 - 1) s.toList else none with
    | some n =>
      if n < Nat.pow 2 bits then .ok n else .error (l.fault s!"invalid value: integer `{n}`, expected u{bits}")
    | none => .error (l.wrong s!"u{bits}")
  | _ => .error (l.wrong s!"u{bits}")

end Look

namespace Document

def follow (d : Document) (n : Node) : Node :=
  match n with
  | .alias _ number => (d.anchored? number).getD n
  | n => n

def look (d : Document) (n : Node) (path : String) : Look :=
  let n := d.follow n
  { node := n, place := n.place, path }

def below (path name : String) : String := if path.isEmpty then name else path ++ "." ++ name

def key (d : Document) (l : Look) (n : Node) : Except String String :=
  match d.follow n with
  | .scalar _ _ _ s => .ok s
  | n => .error (({ l with node := n, place := n.place } : Look).wrong "field identifier")

def record (d : Document) (kind : String) (l : Look) : Except String (List (String × Look)) :=
  match l.node with
  | .mapping _ _ pairs => pairs.mapM fun (k, v) => do
    let name ← d.key l k
    return (name, d.look v (below l.path name))
  | .scalar _ _ style s => if Look.isBare style s then .ok [] else .error (l.wrong kind)
  | _ => .error (l.wrong kind)

def items (d : Document) (l : Look) : Except String (List Look) :=
  match l.node with
  | .sequence _ _ xs => .ok (xs.mapIdx fun i x => d.look x s!"{l.path}[{i}]")
  | .scalar _ _ style s => if Look.isBare style s then .ok [] else .error (l.wrong "a sequence")
  | _ => .error (l.wrong "a sequence")

def settleScalar (place : Place) (tag : Option String) (style : Style) (s : String) : Except String Unit :=
  match scalarValue tag style s with
  | .error problem => .error (problem ++ place.suffix)
  | .ok (.wide n) => .error (s!"invalid type: {(Value.wide n).describe}, expected any value" ++ place.suffix)
  | .ok _ => .ok ()

def settle (d : Document) : (depth : Nat) → Node → (jumps : Nat) → Except String Nat
  | depth, n, jumps => do
    let (n, jumps) ← match n, jumps with
      | .alias .., 0 => .error "repetition limit exceeded"
      | .alias .., j + 1 => .ok (d.follow n, j)
      | n, j => .ok (n, j)
    let tag := match n with | .scalar _ t _ _ | .sequence _ t _ | .mapping _ t _ => t | .alias .. => none
    if tag.any isLocal then
      throw ("untagged and internally tagged enums do not support enum input" ++ n.place.suffix)
    match n, depth with
    | .scalar p tag style s, _ => settleScalar p tag style s; return jumps
    | .alias .., _ => return jumps
    | n, 0 => throw ("recursion limit exceeded" ++ n.place.suffix)
    | .sequence _ _ xs, depth + 1 => xs.foldlM (fun jumps x => settle d depth x jumps) jumps
    | .mapping _ _ ps, depth + 1 =>
      ps.foldlM (fun jumps (k, v) => do settle d depth v (← settle d depth k jumps)) jumps

def maxDepth : Nat := 127

def settleAll (d : Document) (l : Look) (own : List String) :
    List (String × Look) → (jumps : Nat) → Except String (List (String × Look))
  | [], _ => .ok []
  | (name, x) :: fields, jumps => do
    if own.contains name then return (name, x) :: (← settleAll d l own fields jumps)
    else match settle d maxDepth x.node jumps with
      | .error problem => throw (x.path ++ ": " ++ problem)
      | .ok jumps =>
        let x := { x with place := l.place, path := l.path, settled := true }
        return (name, x) :: (← settleAll d l own fields jumps)

def gather (d : Document) (kind : String) (own : List String) (l : Look) :
    Except String (List (String × Look)) := do
  d.settleAll l own (← d.record kind l) (100 * d.root.size)

def view (d : Document) : View Look String where
  record kind _ l := d.record kind l
  items l := d.items l
  text := Look.text
  text? := Look.text?
  flag := Look.flag
  number := Look.number
  fault l problem := l.fault problem
  root := d.gather

end Document

def load {α : Type} (f : View Look String → Look → Except String α) (text : String) : Except String α :=
  match read text with
  | .error e => .error e.text
  | .ok (d, alone) => do
    let d := d.getD ⟨.empty {}, #[]⟩
    let a ← f d.view (d.look d.root "")
    if alone then return a
    else throw "deserializing from YAML containing more than one document is not supported"

end TwoHop.Yaml
