import TwoHop.Log.Level
import TwoHop.Settings
import TwoHop.Text.Upper
import TwoHop.Token

namespace TwoHop

inductive SettingsFault
  | level (text : String)
  | blank (field : String)
  | noPort (field : String)
  | zero (field : String)
  | noEntry
  | halfPair
  deriving DecidableEq, Repr

def SettingsFault.text : SettingsFault → String
  | .level t => Log.Level.fault t
  | .blank field => field ++ " must not be empty"
  | .noPort field => field ++ " must be between 1 and 65535"
  | .zero field => field ++ " must be greater than 0"
  | .noEntry => "At least one auth entry is required"
  | .halfPair => "tls.cert_path and tls.key_path must be set together"

namespace Settings

def Entry.text (e : Entry) : String :=
  "SecretEntry \x7b secret_id: " ++ Text.quote e.id ++ ", secret_key: \"<redacted>\" \x7d"

def need (holds : Bool) (fault : SettingsFault) : Except SettingsFault Unit :=
  if holds then .ok () else .error fault

theorem need_eq_ok {holds : Bool} {fault : SettingsFault} {u : Unit} :
    need holds fault = .ok u ↔ holds = true := by
  cases holds <;> simp [need]

def needText (field s : String) : Except SettingsFault Unit := need (!Text.allBlank s) (.blank field)

def needPort (field : String) (p : UInt16) : Except SettingsFault Unit := need (p != 0) (.noPort field)

def isLevelName (s : String) : Bool := (Log.Level.all.map (·.name)).contains (Text.upperText s)

def Log.validate (l : Log) : Except SettingsFault Unit := do
  need (isLevelName l.level) (.level l.level)
  match l.filePath with
  | some path => if l.toFile then needText "log_file_path" path
  | none => return

def validateRun (t : Timeouts) (m : Metrics) : Except SettingsFault Unit := do
  need (t.connect != 0) (.zero "timeouts.connect_timeout")
  need (t.request != 0) (.zero "timeouts.request_timeout")
  need (!m.enabled || m.interval != 0) (.zero "metrics.interval_secs")

def Entry.validate (e : Entry) : Except SettingsFault Unit := do
  needText "auth.secret_id" e.id
  needText "auth.secret_key" e.key

end Settings

open Settings

namespace RemoteSettings

def validate (s : RemoteSettings) : Except SettingsFault Unit := do
  s.log.validate
  needText "bind_address" s.bindAddress
  needPort "http_port" s.httpPort
  needPort "https_port" s.connectPort
  validateRun s.timeouts s.metrics
  need (!s.entries.isEmpty) .noEntry
  s.entries.forM (·.validate)
  need (s.tls.certPath.isSome == s.tls.keyPath.isSome) .halfPair

def keyring (s : RemoteSettings) : Except AuthFault Keyring :=
  Keyring.make (s.entries.map fun e => (e.id, e.key))

end RemoteSettings

namespace LocalSettings

def validate (s : LocalSettings) : Except SettingsFault Unit := do
  s.log.validate
  needText "bind_address" s.bindAddress
  needPort "local_port" s.localPort
  needText "remote_host" s.remoteHost
  needPort "http_port" s.httpPort
  needPort "https_port" s.connectPort
  needText "secret_id" s.secretId
  needText "secret_key" s.secretKey
  validateRun s.timeouts s.metrics

def secret (s : LocalSettings) : Except AuthFault Secret := Secret.make s.secretId s.secretKey

end LocalSettings

end TwoHop
