import TwoHop.Envelope.Tunnel
import TwoHop.Text.Blank
import TwoHop.Text.Quoted
import TwoHop.Token.Base64
import TwoHop.Token.Digest

namespace TwoHop

def tokenHeader : String := "x-deadbeef-auth"

namespace Token

def nonceSize : Nat := 16

def maxSkew : Nat := 900000

def signedBytes (secretId : String) (timestamp : Int64) (nonce : ByteArray) : ByteArray :=
  secretId.toUTF8 ++ Bytes.littleEndian 8 timestamp.toUInt64.toNat ++ nonce

def sign (secretId : String) (timestamp : Int64) (nonce key : ByteArray) : ByteArray :=
  Digest.hmac key (signedBytes secretId timestamp nonce)

def signatureBy (t : Token) (key : String) : ByteArray :=
  sign t.secretId t.timestamp t.nonce key.toUTF8

def skew (now timestamp : Int64) : Nat := (now.toInt - timestamp.toInt).natAbs

def headerText (t : Token) : String := Base64.encode t.encode

def ofHeaderText? (value : String) : Option Token := do
  let value := Text.trim value
  if value.isEmpty then none
  else (decode (← Base64.decode? value)).toOption

end Token

structure Secret where
  id : String
  key : String
  id_ne : id ≠ ""
  key_ne : key ≠ ""
  deriving DecidableEq

namespace Secret

def make (id key : String) : Except AuthFault Secret :=
  if hi : id = "" then .error .emptyId
  else if hk : key = "" then .error (.emptyKey id)
  else .ok ⟨id, key, hi, hk⟩

def sign (s : Secret) (now : Int64) (nonce : ByteArray) : Token where
  secretId := s.id
  timestamp := now
  nonce
  signature := Token.sign s.id now nonce s.key.toUTF8

def text (s : Secret) : String :=
  "AuthGenerator \x7b secret_id: " ++ Text.quote s.id ++ ", secret_key: \"[REDACTED]\" \x7d"

def keySize : Nat := 32

def keyText (random : ByteArray) : String := Base64.encodeUnpadded random

end Secret

structure Keyring where
  secrets : List Secret
  deriving DecidableEq

namespace Keyring

def make (entries : List (String × String)) : Except AuthFault Keyring := do
  return ⟨← entries.mapM fun (id, key) => Secret.make id key⟩

def ids (k : Keyring) : List String :=
  ((k.secrets.map (·.id)).eraseDups).mergeSort fun a b => a ≤ b

def size (k : Keyring) : Nat := k.ids.length

def text (k : Keyring) : String :=
  "SecretTable \x7b secret_ids: " ++ Text.quoteAll k.ids ++ ", keys: \"[REDACTED]\" \x7d"

def acceptsAt (k : Keyring) (t : Token) (now : Int64) : Bool :=
  t.secretId ≠ "" && !t.nonce.isEmpty && !t.signature.isEmpty &&
    Token.skew now t.timestamp ≤ Token.maxSkew &&
    k.secrets.any fun s => s.id == t.secretId && t.signatureBy s.key == t.signature

def acceptsHeaderAt (k : Keyring) (value : Option String) (now : Int64) : Bool :=
  match value.bind Token.ofHeaderText? with
  | some t => k.acceptsAt t now
  | none => false

end Keyring

end TwoHop
