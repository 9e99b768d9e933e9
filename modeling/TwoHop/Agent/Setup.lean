import TwoHop.Settings.Validity
import TwoHop.Target
import TwoHop.Tls
import TwoHop.Uri

namespace TwoHop

inductive SetupFault
  | settings (f : SettingsFault)
  | auth (f : AuthFault)
  | tls (f : TlsFault)
  | remoteHost (host : String)
  deriving DecidableEq, Repr

def SetupFault.text : SetupFault → String
  | .settings f => f.text
  | .auth f => f.text
  | .tls f => f.text
  | .remoteHost host => "Invalid remote host: " ++ host

structure LocalAgent where
  settings : LocalSettings
  secret : Secret
  remoteUri : Uri
  remoteTunnel : Target

structure RemoteAgent where
  settings : RemoteSettings
  keyring : Keyring
  identity : Option Identity

namespace LocalAgent

def make (s : LocalSettings) : Except SetupFault LocalAgent := do
  s.validate.mapError .settings
  let secret ← s.secret.mapError .auth
  match Uri.parse ("http://" ++ (Target.mk s.remoteHost s.httpPort).text ++ "/") with
  | .ok remoteUri => return ⟨s, secret, remoteUri, s.remoteHost, s.connectPort⟩
  | .error _ => throw (.remoteHost s.remoteHost)

def address (a : LocalAgent) : String := s!"{a.settings.bindAddress}:{a.settings.localPort}"

end LocalAgent

namespace RemoteAgent

def make (s : RemoteSettings) (file : String → Option String) : Except SetupFault RemoteAgent := do
  s.validate.mapError .settings
  let keyring ← s.keyring.mapError .auth
  let identity ← (s.tls.identity file).mapError .tls
  return ⟨s, keyring, identity⟩

def addresses (a : RemoteAgent) : String × String :=
  (s!"{a.settings.bindAddress}:{a.settings.httpPort}", s!"{a.settings.bindAddress}:{a.settings.connectPort}")

end RemoteAgent

end TwoHop
