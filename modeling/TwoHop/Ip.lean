import TwoHop.Text.Quoted

namespace TwoHop

inductive Ip
  | v4 (octets : Vector UInt8 4)
  | v6 (groups : Vector UInt16 8)
  deriving DecidableEq

namespace Ip

def digit? (base : Nat) (c : Char) : Option Nat :=
  let n :=
    if c.isDigit then c.toNat - '0'.toNat
    else if 'a' ≤ c ∧ c ≤ 'f' then c.toNat - 'a'.toNat + 10
    else if 'A' ≤ c ∧ c ≤ 'F' then c.toNat - 'A'.toNat + 10
    else base
  if n < base then some n else none

def readNumber (base width max : Nat) (zeros : Bool) (cs : List Char) :
    Option (Nat × List Char) :=
  let ds := cs.takeWhile fun c => (digit? base c).isSome
  let n := (ds.filterMap (digit? base)).foldl (fun n d => n * base + d) 0
  if ds.isEmpty || ds.length > width || n > max || (!zeros && ds.length > 1 && ds.head? == some '0')
  then none
  else some (n, cs.drop ds.length)

def readOctet (cs : List Char) : Option (UInt8 × List Char) :=
  (readNumber 10 3 255 false cs).map fun (n, rest) => (n.toUInt8, rest)

def readDot : List Char → Option (List Char)
  | '.' :: cs => some cs
  | _ => none

def readV4 (cs : List Char) : Option (Vector UInt8 4 × List Char) := do
  let (a, cs) ← readOctet cs
  let (b, cs) ← readOctet (← readDot cs)
  let (c, cs) ← readOctet (← readDot cs)
  let (d, cs) ← readOctet (← readDot cs)
  return (#v[a, b, c, d], cs)

def pairOf (hi lo : UInt8) : UInt16 := hi.toUInt16 * 256 + lo.toUInt16

def afterColon (first : Bool) (cs : List Char) : Option (List Char) :=
  if first then some cs
  else match cs with
    | ':' :: tail => some tail
    | _ => none

def readGroups (limit : Nat) (first : Bool) (cs : List Char) : List UInt16 × Bool × List Char :=
  match limit with
  | 0 => ([], false, cs)
  | limit + 1 =>
    match afterColon first cs with
    | none => ([], false, cs)
    | some tail =>
      match if limit = 0 then none else readV4 tail with
      | some (o, rest) => ([pairOf o[0] o[1], pairOf o[2] o[3]], true, rest)
      | none =>
        match readNumber 16 4 65535 true tail with
        | none => ([], false, cs)
        | some (g, rest) =>
          let (gs, mixed, rest) := readGroups limit false rest
          (g.toUInt16 :: gs, mixed, rest)

def ofGroups? (gs : List UInt16) : Option Ip :=
  if h : gs.toArray.size = 8 then some (.v6 ⟨gs.toArray, h⟩) else none

def parseV6? (cs : List Char) : Option Ip :=
  let (front, mixed, rest) := readGroups 8 true cs
  if front.length = 8 then if rest.isEmpty then ofGroups? front else none
  else if mixed then none
  else match rest with
    | ':' :: ':' :: rest =>
      let (back, _, rest) := readGroups (7 - front.length) true rest
      if rest.isEmpty then
        ofGroups? (front ++ List.replicate (8 - front.length - back.length) 0 ++ back)
      else none
    | _ => none

def parse? (s : String) : Option Ip :=
  match readV4 s.toList with
  | some (octets, []) => some (.v4 octets)
  | _ => parseV6? s.toList

def octetsText (octets : Vector UInt8 4) : String :=
  ".".intercalate (octets.toList.map fun o => toString o.toNat)

def longestZeros (gs : List UInt16) : Nat × Nat :=
  let runs := (List.range gs.length).map fun i => (i, ((gs.drop i).takeWhile (· == 0)).length)
  runs.foldl (fun best run => if run.2 > best.2 then run else best) (0, 0)

def groupsText (gs : List UInt16) : String := ":".intercalate (gs.map fun g => Text.hex g.toNat)

def text : Ip → String
  | .v4 octets => octetsText octets
  | .v6 g =>
    if g.toList.take 6 = [0, 0, 0, 0, 0, 0xFFFF] then
      let hi := g[6].toNat
      let lo := g[7].toNat
      "::ffff:" ++ octetsText #v[(hi / 256).toUInt8, hi.toUInt8, (lo / 256).toUInt8, lo.toUInt8]
    else
      let gs := g.toList
      let (start, count) := longestZeros gs
      if count > 1 then groupsText (gs.take start) ++ "::" ++ groupsText (gs.drop (start + count))
      else groupsText gs

end Ip

end TwoHop
