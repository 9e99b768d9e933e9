import TwoHop.Fault.Io
import TwoHop.Ip
import TwoHop.Text.Split

namespace TwoHop

inductive ServerName
  | dns (name : String)
  | ip (address : Ip)
  deriving DecidableEq

namespace ServerName

def maxNameSize : Nat := 253

def maxLabelSize : Nat := 63

def isLabelChar (c : Char) : Bool := c.isAlphanum || c == '-' || c == '_'

def isLabel (cs : List Char) : Bool :=
  !cs.isEmpty && cs.length ≤ maxLabelSize && cs.all isLabelChar &&
    cs.head? != some '-' && cs.getLast? != some '-'

def labels (s : String) : List (List Char) :=
  let ls := Text.splitAll '.' s.toList
  if ls.length > 1 && ls.getLast? == some [] then ls.dropLast else ls

/-- A name whose last label is a number would be an address. -/
def isDnsName (s : String) : Bool :=
  s.utf8ByteSize ≤ maxNameSize && (labels s).all isLabel &&
    !((labels s).getLast?.getD []).all Char.isDigit

def fault (host : String) : IoError :=
  ⟨.invalidInput, "Invalid TLS server name " ++ host ++ ": invalid dns name", []⟩

def parse (host : String) : Except IoError ServerName :=
  if isDnsName host then .ok (.dns host)
  else match Ip.parse? host with
    | some address => .ok (.ip address)
    | none => .error (fault host)

def text : ServerName → String
  | .dns name => name
  | .ip address => address.text

end ServerName

end TwoHop
