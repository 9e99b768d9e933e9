import TwoHop.Text.Ascii

namespace TwoHop

inductive UriFault
  | invalidChar
  | invalidAuthority
  | invalidFormat
  | schemeTooLong
  | tooLong
  | empty
  deriving DecidableEq, Repr

def UriFault.text : UriFault → String
  | .invalidChar => "invalid uri character"
  | .invalidAuthority => "invalid authority"
  | .invalidFormat => "invalid format"
  | .schemeTooLong => "scheme too long"
  | .tooLong => "uri too long"
  | .empty => "empty string"

/-- A request target. `rest` is the path with its query; of the three parts an authority form has
only the second, an origin or asterisk form only the third. -/
structure Uri where
  scheme : Option String
  authority : Option String
  rest : String
  deriving DecidableEq, Repr

namespace Uri

def maxSize : Nat := 65534

def maxSchemeLength : Nat := 64

def isSchemeChar (c : Char) : Bool := c.isAlphanum || c == '+' || c == '-' || c == '.'

def isUriChar (c : Char) : Bool := c.isAlphanum || "!#$&'()*+,-./:;=?@[]_~".toList.contains c

def splitScheme (cs : List Char) : Except UriFault (Option (String × List Char)) :=
  let name := cs.takeWhile isSchemeChar
  match cs.drop name.length with
  | ':' :: '/' :: '/' :: rest =>
    let s := String.ofList name
    if Text.sameIgnoringCase s "http" then .ok (some ("http", rest))
    else if Text.sameIgnoringCase s "https" then .ok (some ("https", rest))
    else if name.isEmpty && rest.isEmpty then .ok none
    else if name.length > maxSchemeLength then .error .schemeTooLong
    else .ok (some (s, rest))
  | _ => .ok none

structure AuthoritySeen where
  colons : Nat := 0
  opened : Bool := false
  closed : Bool := false
  percent : Bool := false
  atLast : Bool := false

def AuthoritySeen.finish (s : AuthoritySeen) : Except UriFault Unit :=
  if s.opened != s.closed || s.colons > 1 || s.atLast || s.percent then .error .invalidAuthority
  else .ok ()

/-- Splits the authority off the front: it ends before the first `/`, `?` or `#`. At most one
colon may stand outside user information and brackets, and `%` only inside them. -/
def splitAuthority (s : AuthoritySeen) :
    List Char → List Char → Except UriFault (List Char × List Char)
  | acc, [] => do s.finish; return (acc.reverse, [])
  | acc, c :: cs =>
    let kept := { s with atLast := false }
    match c with
    | '/' | '?' | '#' => do s.finish; return (acc.reverse, c :: cs)
    | ':' =>
      if s.colons ≥ 8 then .error .invalidAuthority
      else splitAuthority { kept with colons := s.colons + 1 } (c :: acc) cs
    | '[' =>
      if s.percent || s.opened then .error .invalidAuthority
      else splitAuthority { kept with opened := true } (c :: acc) cs
    | ']' =>
      if !s.opened || s.closed then .error .invalidAuthority
      else splitAuthority { kept with closed := true, colons := 0, percent := false } (c :: acc) cs
    | '@' => splitAuthority { s with colons := 0, percent := false, atLast := true } (c :: acc) cs
    | '%' => splitAuthority { kept with percent := true } (c :: acc) cs
    | c => if isUriChar c then splitAuthority kept (c :: acc) cs else .error .invalidChar

def isPathChar (c : Char) : Bool :=
  let n := c.val
  n == 0x21 || n == 0x22 || (0x24 ≤ n && n ≤ 0x3B) || n == 0x3D || (0x40 ≤ n && n ≤ 0x5F) ||
    (0x61 ≤ n && n ≤ 0x7E) || 0x7F ≤ n

def isQueryChar (c : Char) : Bool :=
  let n := c.val
  n == 0x21 || (0x24 ≤ n && n ≤ 0x3B) || n == 0x3D || 0x3F ≤ n

def readRest (cs : List Char) : Except UriFault String :=
  let path := cs.takeWhile fun c => c != '?' && c != '#'
  let tail := cs.drop path.length
  let query := tail.takeWhile (· != '#')
  if path.all isPathChar && (query.drop 1).all isQueryChar then .ok (.ofList (path ++ query))
  else .error .invalidChar

def parse (text : String) : Except UriFault Uri :=
  let cs := text.toList
  if text.utf8ByteSize > maxSize then .error .tooLong
  else match cs with
  | [] => .error .empty
  | ['*'] => .ok ⟨none, none, "*"⟩
  | '/' :: _ => do return ⟨none, none, ← readRest cs⟩
  | _ => do
    match ← splitScheme cs with
    | none =>
      let (authority, left) ← splitAuthority {} [] cs
      if !left.isEmpty then .error (if cs.length == 1 then .invalidChar else .invalidFormat)
      else return ⟨none, some (.ofList authority), ""⟩
    | some (scheme, cs) =>
      let (authority, left) ← splitAuthority {} [] cs
      if authority.isEmpty then .error .invalidFormat
      else return ⟨some scheme, some (.ofList authority), ← readRest left⟩

def pathAndQuery? (u : Uri) : Option String :=
  if u.scheme.isSome || u.authority.isNone then
    some (if u.rest.isEmpty then "/" else u.rest)
  else none

def pathText (u : Uri) : String :=
  if u.rest.isEmpty then if u.scheme.isSome then "/" else ""
  else if u.rest.startsWith "?" then "/" ++ u.rest
  else u.rest

def text (u : Uri) : String :=
  (match u.scheme with | some s => s ++ "://" | none => "") ++ u.authority.getD "" ++ u.pathText

end Uri

end TwoHop
