import TwoHop.Pem
import TwoHop.Settings

namespace TwoHop

inductive TlsFault
  | halfPair
  | noCertificateFile
  | certificateText
  | noCertificate (path : String)
  | noKeyFile
  | keyText
  | noKey
  | unusable
  deriving DecidableEq, Repr

def TlsFault.text : TlsFault → String
  | .halfPair => "tls.cert_path and tls.key_path must be set together"
  | .noCertificateFile => "Failed to open certificate file"
  | .certificateText => "Failed to parse certificate"
  | .noCertificate path => "No certificate found in " ++ path
  | .noKeyFile => "Failed to open private key file"
  | .keyText => "Failed to parse private key"
  | .noKey => "No private key found"
  | .unusable => "Failed to create TLS config"

inductive Identity
  | selfSigned
  | pair (chain : List ByteArray) (key : ByteArray)
  deriving DecidableEq

namespace Identity

def derLength? : List UInt8 → Option (Nat × Nat)
  | [] => none
  | b :: bs =>
    if b < 0x80 then some (1, b.toNat)
    else
      let n := b.toNat - 0x80
      if n = 0 ∨ bs.length < n then none
      else some (n + 1, (bs.take n).foldl (fun a x => a * 256 + x.toNat) 0)

def isSequence (b : ByteArray) : Bool :=
  match b.data.toList with
  | 0x30 :: bs => (derLength? bs).any fun (n, length) => n + length == bs.length
  | _ => false

def ofTexts (certPath : String) (cert key : Option String) : Except TlsFault Identity := do
  let cert ← cert.elim (.error .noCertificateFile) .ok
  let chain ← (Pem.certificates? cert).elim (.error .certificateText) .ok
  if chain.isEmpty then throw (.noCertificate certPath)
  let key ← key.elim (.error .noKeyFile) .ok
  let key ← (Pem.key key).mapError fun _ => TlsFault.keyText
  let key ← key.elim (.error .noKey) .ok
  if chain.all isSequence && isSequence key then return .pair chain key else throw .unusable

end Identity

namespace Settings

def AcceptorTls.identity (t : AcceptorTls) (file : String → Option String) :
    Except TlsFault (Option Identity) :=
  if !t.enabled then .ok none
  else match t.certPath, t.keyPath with
    | some cert, some key => some <$> Identity.ofTexts cert (file cert) (file key)
    | none, none => .ok (some .selfSigned)
    | _, _ => .error .halfPair

end Settings

end TwoHop
