import TwoHop.Bytes

/-! Base64 in the alphabet for URLs. Reading asks for all padding or none, and for nothing in the
bits that no byte needs. -/

namespace TwoHop.Base64

def alphabet : Array Char :=
  "ABCDEFGHIJKLMNOPQRSTUVWXYZabcdefghijklmnopqrstuvwxyz0123456789-_".toList.toArray

def letter (n : Nat) : Char := alphabet[n % 64]?.getD 'A'

def letters : List UInt8 → List Char
  | [] => []
  | [x] => [letter (x.toNat / 4), letter (x.toNat % 4 * 16)]
  | [x, y] =>
    [letter (x.toNat / 4), letter (x.toNat % 4 * 16 + y.toNat / 16), letter (y.toNat % 16 * 4)]
  | x :: y :: z :: rest =>
    letter (x.toNat / 4) :: letter (x.toNat % 4 * 16 + y.toNat / 16) ::
      letter (y.toNat % 16 * 4 + z.toNat / 64) :: letter z.toNat :: letters rest

def encodeUnpadded (b : ByteArray) : String := .ofList (letters b.data.toList)

def padding (size : Nat) : List Char :=
  match size % 3 with
  | 1 => ['=', '=']
  | 2 => ['=']
  | _ => []

def encode (b : ByteArray) : String := .ofList (letters b.data.toList ++ padding b.size)

def value? (c : Char) : Option Nat := alphabet.finIdxOf? c |>.map (·.val)

def groupBytes : List Nat → List UInt8
  | a :: b :: c :: d :: rest =>
    (a * 4 + b / 16).toUInt8 :: (b % 16 * 16 + c / 4).toUInt8 :: (c % 4 * 64 + d).toUInt8 ::
      groupBytes rest
  | [a, b, c] => [(a * 4 + b / 16).toUInt8, (b % 16 * 16 + c / 4).toUInt8]
  | [a, b] => [(a * 4 + b / 16).toUInt8]
  | _ => []

def fills : List Nat → Bool
  | _ :: _ :: _ :: _ :: rest => fills rest
  | [_, _, c] => c % 4 == 0
  | [_, b] => b % 16 == 0
  | [_] => false
  | [] => true

/-- The bytes of letters behind which stands the padding that `pad` wants for so many bytes. -/
def decodeWith (pad : Nat → List Char) (cs : List Char) : Option (List UInt8) := do
  let spelling := cs.takeWhile (· != '=')
  let values ← spelling.mapM value?
  let bytes := groupBytes values
  if fills values && cs.drop spelling.length == pad bytes.length then some bytes else none

def decode? (s : String) : Option ByteArray :=
  ((decodeWith padding s.toList).orElse fun _ => decodeWith (fun _ => []) s.toList).map
    fun bytes => ⟨bytes.toArray⟩

end TwoHop.Base64
