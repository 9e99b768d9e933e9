import TwoHop.Settings.View

namespace TwoHop

inductive Data
  | null
  | flag (b : Bool)
  | integer (n : Int)
  | decimal (text : String)
  | text (s : String)
  | list (items : List Data)
  | record (fields : List (String × Data))
  deriving Repr, Inhabited

namespace Data

inductive Fault
  | kind (wanted : String)
  | range (n : Int) (bits : Nat)
  | length (found : Nat) (wanted : String)
  | record (problem : String)
  deriving DecidableEq, Repr

def asText : Data → Except Fault String
  | .text s => .ok s
  | _ => .error (.kind "a string")

def asText? : Data → Except Fault (Option String)
  | .null => .ok none
  | d => some <$> asText d

def asFlag : Data → Except Fault Bool
  | .flag b => .ok b
  | _ => .error (.kind "a boolean")

def asNumber (bits : Nat) : Data → Except Fault Nat
  | .integer n => if 0 ≤ n ∧ n < Nat.pow 2 bits then .ok n.toNat else .error (.range n bits)
  | _ => .error (.kind s!"u{bits}")

def asItems : Data → Except Fault (List Data)
  | .list xs => .ok xs
  | _ => .error (.kind "a sequence")

def asRecord (kind : String) (names : List String) : Data → Except Fault (List (String × Data))
  | .record fields => .ok fields
  | .list xs => if xs.length ≤ names.length then .ok (names.zip xs) else .error (.length xs.length kind)
  | _ => .error (.kind kind)

def asRoot (kind : String) : Data → Except Fault (List (String × Data))
  | .record fields => .ok fields
  | _ => .error (.kind kind)

def view : View Data Fault where
  record := asRecord
  items := asItems
  text := asText
  text? := asText?
  flag := asFlag
  number := asNumber
  fault _ problem := .record problem
  root kind _ := asRoot kind

def ofText? (s : Option String) : Data := (s.map Data.text).getD .null

def ofNat (n : Nat) : Data := .integer n

end Data

namespace Settings

def Timeouts.toData (t : Timeouts) : Data :=
  .record [("connect_timeout", .ofNat t.connect.toNat), ("request_timeout", .ofNat t.request.toNat)]

def Metrics.toData (m : Metrics) : Data :=
  .record [("enabled", .flag m.enabled), ("interval_secs", .ofNat m.interval.toNat)]

def AcceptorTls.toData (t : AcceptorTls) : Data :=
  .record [("enabled", .flag t.enabled), ("cert_path", .ofText? t.certPath), ("key_path", .ofText? t.keyPath)]

def ConnectorTls.toData (t : ConnectorTls) : Data :=
  .record [("enabled", .flag t.enabled), ("skip_cert_verification", .flag t.skipVerification)]

def Entry.toData (e : Entry) : Data :=
  .record [("secret_id", .text e.id), ("secret_key", .text e.key)]

def Log.fields (l : Log) : List (String × Data) :=
  [("log_level", .text l.level), ("log_theme_path", .text l.themePath), ("log_to_file", .flag l.toFile),
    ("log_file_path", .ofText? l.filePath)]

end Settings

def RemoteSettings.toData (s : RemoteSettings) : Data :=
  .record (s.log.fields ++ [("bind_address", .text s.bindAddress), ("http_port", .ofNat s.httpPort.toNat),
    ("https_port", .ofNat s.connectPort.toNat), ("tls", s.tls.toData),
    ("auth", .list (s.entries.map (·.toData))), ("timeouts", s.timeouts.toData),
    ("metrics", s.metrics.toData)])

def LocalSettings.toData (s : LocalSettings) : Data :=
  .record (s.log.fields ++ [("bind_address", .text s.bindAddress), ("local_port", .ofNat s.localPort.toNat),
    ("remote_host", .text s.remoteHost), ("http_port", .ofNat s.httpPort.toNat),
    ("https_port", .ofNat s.connectPort.toNat), ("secret_id", .text s.secretId),
    ("secret_key", .text s.secretKey), ("tls", s.tls.toData), ("timeouts", s.timeouts.toData),
    ("metrics", s.metrics.toData)])

end TwoHop
