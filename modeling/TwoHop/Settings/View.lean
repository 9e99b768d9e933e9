import TwoHop.Settings

namespace TwoHop

/-- How a tree of data is looked into: what stands at a node, or what is wrong with it. -/
structure View (ν ε : Type) where
  record : (kind : String) → (names : List String) → ν → Except ε (List (String × ν))
  items : ν → Except ε (List ν)
  text : ν → Except ε String
  text? : ν → Except ε (Option String)
  flag : ν → Except ε Bool
  number : (bits : Nat) → ν → Except ε Nat
  fault : ν → String → ε
  root : (kind : String) → (own : List String) → ν → Except ε (List (String × ν))

namespace View

variable {ν ε σ : Type}

def build (v : View ν ε) (names : List String) (set : σ → String → ν → Except ε σ) (whole : ν) :
    List (String × ν) → List String → σ → Except ε σ
  | [], _, s => .ok s
  | (name, x) :: fields, seen, s =>
    if !names.contains name then v.build names set whole fields seen s
    else if seen.contains name then .error (v.fault whole s!"duplicate field `{name}`")
    else do v.build names set whole fields (name :: seen) (← set s name x)

def readRecord (v : View ν ε) (kind : String) (names : List String)
    (set : σ → String → ν → Except ε σ) (s : σ) (x : ν) : Except ε σ := do
  v.build names set x (← v.record kind names x) [] s

def port (v : View ν ε) (x : ν) : Except ε UInt16 := Nat.toUInt16 <$> v.number 16 x

def seconds (v : View ν ε) (x : ν) : Except ε UInt64 := Nat.toUInt64 <$> v.number 64 x

end View

namespace Settings

variable {ν ε : Type}

def Timeouts.set (v : View ν ε) (t : Timeouts) (name : String) (x : ν) : Except ε Timeouts := do
  match name with
  | "connect_timeout" => return { t with connect := ← v.seconds x }
  | "request_timeout" => return { t with request := ← v.seconds x }
  | _ => return t

def Timeouts.read (v : View ν ε) : ν → Except ε Timeouts :=
  v.readRecord "struct TimeoutConfig" ["connect_timeout", "request_timeout"] (set v) {}

def Metrics.set (v : View ν ε) (m : Metrics) (name : String) (x : ν) : Except ε Metrics := do
  match name with
  | "enabled" => return { m with enabled := ← v.flag x }
  | "interval_secs" => return { m with interval := ← v.seconds x }
  | _ => return m

def Metrics.read (v : View ν ε) : ν → Except ε Metrics :=
  v.readRecord "struct MetricsConfig" ["enabled", "interval_secs"] (set v) {}

def AcceptorTls.set (v : View ν ε) (t : AcceptorTls) (name : String) (x : ν) : Except ε AcceptorTls := do
  match name with
  | "enabled" => return { t with enabled := ← v.flag x }
  | "cert_path" => return { t with certPath := ← v.text? x }
  | "key_path" => return { t with keyPath := ← v.text? x }
  | _ => return t

def AcceptorTls.read (v : View ν ε) : ν → Except ε AcceptorTls :=
  v.readRecord "struct ServerTlsConfig" ["enabled", "cert_path", "key_path"] (set v) {}

def ConnectorTls.set (v : View ν ε) (t : ConnectorTls) (name : String) (x : ν) : Except ε ConnectorTls := do
  match name with
  | "enabled" => return { t with enabled := ← v.flag x }
  | "skip_cert_verification" => return { t with skipVerification := ← v.flag x }
  | _ => return t

def ConnectorTls.read (v : View ν ε) : ν → Except ε ConnectorTls :=
  v.readRecord "struct ClientTlsConfig" ["enabled", "skip_cert_verification"] (set v) {}

structure Entry.Draft where
  id : Option String := none
  key : Option String := none

def Entry.set (v : View ν ε) (d : Draft) (name : String) (x : ν) : Except ε Draft := do
  match name with
  | "secret_id" => return { d with id := some (← v.text x) }
  | "secret_key" => return { d with key := some (← v.text x) }
  | _ => return d

def Entry.read (v : View ν ε) (x : ν) : Except ε Entry := do
  let d ← v.readRecord "struct SecretEntry" ["secret_id", "secret_key"] (set v) ({} : Draft) x
  match d.id, d.key with
  | some id, some key => return ⟨id, key⟩
  | none, _ => throw (v.fault x "missing field `secret_id`")
  | _, none => throw (v.fault x "missing field `secret_key`")

def Entry.readAll (v : View ν ε) (x : ν) : Except ε (List Entry) := do
  (← v.items x).mapM (read v)

def Log.names : List String := ["log_level", "log_theme_path", "log_to_file", "log_file_path"]

def Log.set (v : View ν ε) (l : Log) (name : String) (x : ν) : Except ε Log := do
  match name with
  | "log_level" => return { l with level := ← v.text x }
  | "log_theme_path" => return { l with themePath := ← v.text x }
  | "log_to_file" => return { l with toFile := ← v.flag x }
  | "log_file_path" => return { l with filePath := ← v.text? x }
  | _ => return l

end Settings

open Settings

variable {ν ε : Type}

namespace RemoteSettings

def names : List String :=
  ["bind_address", "http_port", "https_port", "tls", "auth", "timeouts", "metrics"]

def set (v : View ν ε) (s : RemoteSettings) (name : String) (x : ν) : Except ε RemoteSettings := do
  match name with
  | "bind_address" => return { s with bindAddress := ← v.text x }
  | "http_port" => return { s with httpPort := ← v.port x }
  | "https_port" => return { s with connectPort := ← v.port x }
  | "tls" => return { s with tls := ← AcceptorTls.read v x }
  | "auth" => return { s with entries := ← Entry.readAll v x }
  | "timeouts" => return { s with timeouts := ← Timeouts.read v x }
  | "metrics" => return { s with metrics := ← Metrics.read v x }
  | _ => return s

def read (v : View ν ε) (x : ν) : Except ε RemoteSettings := do
  let fields ← v.root "struct ServerConfig" names x
  let s ← v.build names (set v) x fields [] {}
  return { s with log := ← v.build Log.names (Log.set v) x fields [] {} }

end RemoteSettings

namespace LocalSettings

def names : List String :=
  ["bind_address", "local_port", "remote_host", "http_port", "https_port", "secret_id", "secret_key",
    "tls", "timeouts", "metrics"]

def set (v : View ν ε) (s : LocalSettings) (name : String) (x : ν) : Except ε LocalSettings := do
  match name with
  | "bind_address" => return { s with bindAddress := ← v.text x }
  | "local_port" => return { s with localPort := ← v.port x }
  | "remote_host" => return { s with remoteHost := ← v.text x }
  | "http_port" => return { s with httpPort := ← v.port x }
  | "https_port" => return { s with connectPort := ← v.port x }
  | "secret_id" => return { s with secretId := ← v.text x }
  | "secret_key" => return { s with secretKey := ← v.text x }
  | "tls" => return { s with tls := ← ConnectorTls.read v x }
  | "timeouts" => return { s with timeouts := ← Timeouts.read v x }
  | "metrics" => return { s with metrics := ← Metrics.read v x }
  | _ => return s

def read (v : View ν ε) (x : ν) : Except ε LocalSettings := do
  let fields ← v.root "struct ClientConfig" names x
  let s ← v.build names (set v) x fields [] {}
  return { s with log := ← v.build Log.names (Log.set v) x fields [] {} }

end LocalSettings

end TwoHop
