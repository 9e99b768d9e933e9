import TwoHop.Bytes

namespace TwoHop.Digest

def roundConstants : Array UInt32 := #[
  0x428a2f98, 0x71374491, 0xb5c0fbcf, 0xe9b5dba5, 0x3956c25b, 0x59f111f1, 0x923f82a4, 0xab1c5ed5,
  0xd807aa98, 0x12835b01, 0x243185be, 0x550c7dc3, 0x72be5d74, 0x80deb1fe, 0x9bdc06a7, 0xc19bf174,
  0xe49b69c1, 0xefbe4786, 0x0fc19dc6, 0x240ca1cc, 0x2de92c6f, 0x4a7484aa, 0x5cb0a9dc, 0x76f988da,
  0x983e5152, 0xa831c66d, 0xb00327c8, 0xbf597fc7, 0xc6e00bf3, 0xd5a79147, 0x06ca6351, 0x14292967,
  0x27b70a85, 0x2e1b2138, 0x4d2c6dfc, 0x53380d13, 0x650a7354, 0x766a0abb, 0x81c2c92e, 0x92722c85,
  0xa2bfe8a1, 0xa81a664b, 0xc24b8b70, 0xc76c51a3, 0xd192e819, 0xd6990624, 0xf40e3585, 0x106aa070,
  0x19a4c116, 0x1e376c08, 0x2748774c, 0x34b0bcb5, 0x391c0cb3, 0x4ed8aa4a, 0x5b9cca4f, 0x682e6ff3,
  0x748f82ee, 0x78a5636f, 0x84c87814, 0x8cc70208, 0x90befffa, 0xa4506ceb, 0xbef9a3f7, 0xc67178f2]

def rotate (x : UInt32) (n : UInt32) : UInt32 := (x >>> n) ||| (x <<< (32 - n))

structure State where
  a : UInt32
  b : UInt32
  c : UInt32
  d : UInt32
  e : UInt32
  f : UInt32
  g : UInt32
  h : UInt32

def State.start : State :=
  ⟨0x6a09e667, 0xbb67ae85, 0x3c6ef372, 0xa54ff53a, 0x510e527f, 0x9b05688c, 0x1f83d9ab, 0x5be0cd19⟩

def State.add (s t : State) : State :=
  ⟨s.a + t.a, s.b + t.b, s.c + t.c, s.d + t.d, s.e + t.e, s.f + t.f, s.g + t.g, s.h + t.h⟩

def State.toBytes (s : State) : ByteArray :=
  [s.a, s.b, s.c, s.d, s.e, s.f, s.g, s.h].foldl (fun b w => b ++ Bytes.bigEndian 4 w.toNat) .empty

def State.round (s : State) (k w : UInt32) : State :=
  let s1 := rotate s.e 6 ^^^ rotate s.e 11 ^^^ rotate s.e 25
  let choice := (s.e &&& s.f) ^^^ (~~~s.e &&& s.g)
  let t1 := s.h + s1 + choice + k + w
  let s0 := rotate s.a 2 ^^^ rotate s.a 13 ^^^ rotate s.a 22
  let majority := (s.a &&& s.b) ^^^ (s.a &&& s.c) ^^^ (s.b &&& s.c)
  ⟨t1 + s0 + majority, s.a, s.b, s.c, s.d + t1, s.e, s.f, s.g⟩

def word (b : ByteArray) (i : Nat) : UInt32 :=
  (Bytes.toNat (b.extract i (i + 4))).toUInt32

def extend (w : Array UInt32) (t : Nat) : Array UInt32 :=
  let at_ (i : Nat) : UInt32 := w[i]?.getD 0
  let x := at_ (t + 1)
  let y := at_ (t + 14)
  let s0 := rotate x 7 ^^^ rotate x 18 ^^^ (x >>> 3)
  let s1 := rotate y 17 ^^^ rotate y 19 ^^^ (y >>> 10)
  w.push (at_ t + s0 + at_ (t + 9) + s1)

def schedule (b : ByteArray) (i : Nat) : Array UInt32 :=
  (List.range 48).foldl extend ((Array.range 16).map fun k => word b (i + 4 * k))

def compress (s : State) (b : ByteArray) (i : Nat) : State :=
  s.add ((roundConstants.zip (schedule b i)).foldl (fun s (k, w) => s.round k w) s)

def pad (b : ByteArray) : ByteArray :=
  let zeros := (119 - b.size % 64) % 64
  b.push 0x80 ++ ⟨.replicate zeros 0⟩ ++ Bytes.bigEndian 8 (8 * b.size)

def sha256 (b : ByteArray) : ByteArray :=
  let p := pad b
  ((List.range (p.size / 64)).foldl (fun s k => compress s p (64 * k)) .start).toBytes

def blockSize : Nat := 64

def blockKey (key : ByteArray) : ByteArray :=
  let key := if key.size > blockSize then sha256 key else key
  key ++ ⟨.replicate (blockSize - key.size) 0⟩

def xorAll (b : ByteArray) (x : UInt8) : ByteArray := ⟨b.data.map (· ^^^ x)⟩

def hmac (key message : ByteArray) : ByteArray :=
  let key := blockKey key
  sha256 (xorAll key 0x5c ++ sha256 (xorAll key 0x36 ++ message))

example : hmac "Jefe".toUTF8 "what do ya want for nothing?".toUTF8 = ⟨#[
    0x5b, 0xdc, 0xc1, 0x46, 0xbf, 0x60, 0x75, 0x4e, 0x6a, 0x04, 0x24, 0x26, 0x08, 0x95, 0x75, 0xc7,
    0x5a, 0x00, 0x3f, 0x08, 0x9d, 0x27, 0x39, 0x83, 0x9d, 0xec, 0x58, 0xb9, 0x64, 0xec, 0x38, 0x43]⟩ := by
  decide +kernel

end TwoHop.Digest
