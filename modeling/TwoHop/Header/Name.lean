import TwoHop.Text.Ascii

namespace TwoHop.Header

def declaredNames : Vector String 30 := #v[
  "accept", "accept-charset", "accept-encoding", "accept-language", "authorization",
  "cache-control", "connection", "content-encoding", "content-length", "content-type",
  "cookie", "date", "etag", "expect", "host", "if-modified-since", "if-none-match",
  "last-modified", "location", "origin", "pragma", "range", "referer", "server", "set-cookie",
  "transfer-encoding", "upgrade", "user-agent", "via", "x-forwarded-for"]

abbrev Slot := Fin 30

def Slot.name (s : Slot) : String := declaredNames.get s

def Slot.tag (s : Slot) : UInt8 := (s.val + 1).toUInt8

def slotOf? (name : String) : Option Slot := declaredNames.finIdxOf? name

def slotOfTag? (tag : UInt8) : Option Slot :=
  if h : 1 ≤ tag.toNat ∧ tag.toNat ≤ 30 then some ⟨tag.toNat - 1, by omega⟩ else none

def undeclaredTag : UInt8 := 100

def hopByHop : List String :=
  ["connection", "keep-alive", "proxy-connection", "proxy-authenticate", "proxy-authorization",
    "te", "trailer", "transfer-encoding", "upgrade"]

theorem slotOfTag?_tag (s : Slot) : slotOfTag? s.tag = some s := by
  revert s; decide

theorem tag_ne_undeclaredTag (s : Slot) : s.tag ≠ undeclaredTag := by
  revert s; decide

def maxNameSize : Nat := 65535

def isName (s : String) : Bool := Text.isToken s && s.utf8ByteSize ≤ maxNameSize

def isValue (b : ByteArray) : Bool := b.data.all fun x => x == 0x09 || (0x20 ≤ x && x != 0x7F)

end TwoHop.Header
