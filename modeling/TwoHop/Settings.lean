namespace TwoHop

namespace Settings

structure Log where
  level : String := "INFO"
  themePath : String := "config/log_theme.yml"
  toFile : Bool := false
  filePath : Option String := none
  deriving DecidableEq, Repr

structure Timeouts where
  connect : UInt64 := 10
  request : UInt64 := 20
  deriving DecidableEq, Repr

structure Metrics where
  enabled : Bool := false
  interval : UInt64 := 60
  deriving DecidableEq, Repr

structure AcceptorTls where
  enabled : Bool := false
  certPath : Option String := none
  keyPath : Option String := none
  deriving DecidableEq, Repr

structure ConnectorTls where
  enabled : Bool := false
  skipVerification : Bool := false
  deriving DecidableEq, Repr

structure Entry where
  id : String
  key : String
  deriving DecidableEq, Repr

end Settings

open Settings

structure RemoteSettings where
  log : Log := {}
  bindAddress : String := "0.0.0.0"
  httpPort : UInt16 := 8080
  connectPort : UInt16 := 8443
  tls : AcceptorTls := {}
  entries : List Entry := []
  timeouts : Timeouts := {}
  metrics : Metrics := {}
  deriving DecidableEq, Repr

structure LocalSettings where
  log : Log := {}
  bindAddress : String := "127.0.0.1"
  localPort : UInt16 := 1080
  remoteHost : String := ""
  httpPort : UInt16 := 8080
  connectPort : UInt16 := 8443
  secretId : String := ""
  secretKey : String := ""
  tls : ConnectorTls := {}
  timeouts : Timeouts := {}
  metrics : Metrics := {}
  deriving DecidableEq, Repr

end TwoHop
