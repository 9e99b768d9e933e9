import TwoHop.Field
import TwoHop.Frame
import TwoHop.Header.Map

/-! The headers of a message in transit: a slot for the first value of each declared name, and
the other pairs in order. -/

namespace TwoHop

open Header

structure Headers where
  slots : Vector (Option String) 30 := .replicate 30 none
  others : Array (String × String) := #[]
  deriving DecidableEq

namespace Headers

def empty : Headers := {}

def insert (h : Headers) (name value : String) : Headers :=
  let name := Text.lower name
  match slotOf? name with
  | some s =>
    if (h.slots.get s).isNone then { h with slots := h.slots.set s (some value) }
    else { h with others := h.others.push (name, value) }
  | none => { h with others := h.others.push (name, value) }

def pushOther (h : Headers) (name value : String) : Headers :=
  { h with others := h.others.push (name, value) }

def declared (h : Headers) : List (Slot × String) :=
  (List.finRange 30).filterMap fun s => (h.slots.get s).map (s, ·)

def pairs (h : Headers) : List (String × String) :=
  h.declared.map (fun (s, value) => (s.name, value)) ++ h.others.toList

def size (h : Headers) : Nat := h.declared.length + h.others.size

def isEmpty (h : Headers) : Bool := h.size == 0

def get? (h : Headers) (name : String) : Option String :=
  let name := Text.lower name
  match (slotOf? name).bind h.slots.get with
  | some value => some value
  | none => (h.others.find? (·.1 == name)).map (·.2)

def removeHopByHop (h : Headers) : Headers where
  slots := .ofFn fun s => if Slot.name s ∈ hopByHop then none else h.slots.get s
  others := h.others.filter fun (name, _) => name ∉ hopByHop

def pairBytes (name value : String) : ByteArray :=
  Field.encodeAll [.ofText 1 name, .ofText 2 value]

def fields (h : Headers) : List Field :=
  h.declared.map (fun (s, value) => .ofText s.tag value) ++
    h.others.toList.map fun (name, value) => ⟨undeclaredTag, pairBytes name value⟩

def encode (h : Headers) : ByteArray := Field.encodeAll h.fields

def takePairField (p : Option String × String) (f : Field) :
    Except DecodeFault (Option String × String) :=
  match f.tag with
  | 1 => do return (some (← f.text), p.2)
  | 2 => do return (p.1, ← f.text)
  | _ => .ok p

def takeField (h : Headers) (f : Field) : Except DecodeFault Headers :=
  if f.tag == undeclaredTag then do
    match ← Field.fold takePairField f.value (none, "") with
    | (some name, value) => return h.pushOther (Text.lower name) value
    | (none, _) => return h
  else match slotOfTag? f.tag with
    | some s => do return h.insert s.name (← f.text)
    | none => .ok h

def decode (b : ByteArray) : Except DecodeFault Headers := Field.fold takeField b .empty

def ofMap (m : Map) : Headers :=
  m.toList.foldl (fun h (name, value) =>
    match String.fromUTF8? value with
    | some s => h.insert name s
    | none => h) .empty

def maxMapPairs : Nat := 24576

/-- Names and values that no map takes are left out. -/
def toMap (h : Headers) : Except Crash Map :=
  if h.size > maxMapPairs then .error (.headerCount h.size)
  else .ok (h.pairs.foldl (fun m (name, value) => (m.append? name value.toUTF8).getD m) .empty)

end Headers

end TwoHop
