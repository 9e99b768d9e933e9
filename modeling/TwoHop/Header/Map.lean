import TwoHop.Bytes
import TwoHop.Header.Name

/-! Header maps: lower-case names in the order of their first value, each with its values in
order. -/

namespace TwoHop.Header

structure Group where
  name : String
  values : Array ByteArray
  deriving DecidableEq

structure Map where
  groups : Array Group := #[]
  deriving DecidableEq

namespace Map

def empty : Map := {}

def append (m : Map) (name : String) (value : ByteArray) : Map :=
  match m.groups.findIdx? (·.name == name) with
  | some i => ⟨m.groups.modify i fun g => { g with values := g.values.push value }⟩
  | none => ⟨m.groups.push ⟨name, #[value]⟩⟩

def values (m : Map) (name : String) : List ByteArray :=
  match m.groups.find? (·.name == name) with
  | some g => g.values.toList
  | none => []

def get? (m : Map) (name : String) : Option ByteArray := (m.values name).head?

def contains (m : Map) (name : String) : Bool := m.groups.any (·.name == name)

/-- Removes a name; the last name takes its place. -/
def erase (m : Map) (name : String) : Map :=
  match m.groups.findIdx? (·.name == name) with
  | some i => ⟨(m.groups.setIfInBounds i (m.groups.back?.getD ⟨name, #[]⟩)).pop⟩
  | none => m

def set (m : Map) (name : String) (value : ByteArray) : Map :=
  match m.groups.findIdx? (·.name == name) with
  | some i => ⟨m.groups.modify i fun g => { g with values := #[value] }⟩
  | none => ⟨m.groups.push ⟨name, #[value]⟩⟩

def toList (m : Map) : List (String × ByteArray) :=
  m.groups.toList.flatMap fun g => g.values.toList.map (g.name, ·)

def append? (m : Map) (name : String) (value : ByteArray) : Option Map :=
  if isName name && isValue value then some (m.append (Text.lower name) value) else none

def text? (m : Map) (name : String) : Option String := do
  let value ← m.get? name
  if value.data.all Text.isVisible then String.fromUTF8? value else none

end Map

end TwoHop.Header
