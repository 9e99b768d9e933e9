import TwoHop.Agent.Setup
import TwoHop.Log.Theme
import TwoHop.Yaml.Look

namespace TwoHop.CommandLine

inductive Command
  | server (settings : String)
  | client (settings : String)
  | secret
  deriving DecidableEq, Repr

inductive Parsed
  | run (c : Command)
  | help
  | misuse
  deriving DecidableEq, Repr

def serverPath : String := "config/server.yml"

def clientPath : String := "config/client.yml"

def isHelp (arg : String) : Bool := arg == "--help" || arg.startsWith "-h"

def isValue (arg : String) : Bool := arg != "" && (arg == "-" || !arg.startsWith "-")

def attached? (arg : String) : Option String :=
  if arg.startsWith "--config=" then some (arg.drop "--config=".length).toString else none

def options (command : String → Command) (path : String) : (given : Bool) → List String → Parsed
  | _, [] => .run (command path)
  | given, "--config" :: value :: rest =>
    if given || !isValue value then .misuse else options command value true rest
  | given, arg :: rest =>
    if isHelp arg then .help
    else if arg == "--" && rest.isEmpty then .run (command path)
    else match attached? arg with
      | some value => if given || value == "" then .misuse else options command value true rest
      | none => .misuse

def noOptions : List String → Parsed
  | [] | ["--"] => .run .secret
  | arg :: _ => if isHelp arg then .help else .misuse

def commands : List String := ["server", "client", "secret", "help"]

def helpOn : List String → Parsed
  | [] => .help
  | [name] => if commands.contains name || isHelp name then .help else .misuse
  | _ => .misuse

def parse : List String → Parsed
  | "server" :: args => options .server serverPath false args
  | "client" :: args => options .client clientPath false args
  | "secret" :: args => noOptions args
  | "help" :: args => helpOn args
  | arg :: _ => if isHelp arg then .help else .misuse
  | [] => .misuse

inductive Content
  | absent
  | bytes (b : ByteArray)
  | failed (e : IoError)

structure Surroundings where
  read : String → Content
  canListen : String → Bool
  random : ByteArray

inductive Outcome
  | printed (text : String)
  | serving
  | failed (message : String)
  | help
  | misuse
  deriving DecidableEq, Repr

def Outcome.code : Outcome → Nat
  | .printed _ | .serving | .help => 0
  | .failed _ => 1
  | .misuse => 2

def loadSettings {α : Type} (w : Surroundings) (f : View Yaml.Look String → Yaml.Look → Except String α)
    (default : α) (path : String) : Except String α :=
  match w.read path with
  | .absent => .ok default
  | .failed e => .error e.text
  | .bytes b => match String.fromUTF8? b with
    | some text => Yaml.load f text
    | none => .error "stream did not contain valid UTF-8"

/-- The theme to log in. A file that cannot be read is no fault, one that makes no sense is. -/
def loadTheme (w : Surroundings) (path : String) : Except String Log.Theme :=
  match w.read path with
  | .bytes b => match String.fromUTF8? b with
    | some text => (Yaml.load Log.Theme.read text).mapError fun _ => "Invalid log theme " ++ path
    | none => .ok {}
  | _ => .ok {}

def logging (w : Surroundings) (l : Settings.Log) : Except String (Log.Theme × Log.Level) := do
  let theme ← loadTheme w l.themePath
  match Log.Level.parse? l.level with
  | some level => return (theme, level)
  | none => throw (Log.Level.fault l.level)

def fileText (w : Surroundings) (path : String) : Option String :=
  match w.read path with
  | .bytes b => some (Bytes.lossyText b)
  | _ => none

def startServer (w : Surroundings) (path : String) : Except String RemoteAgent := do
  let settings ← loadSettings w RemoteSettings.read {} path
  let _ ← logging w settings.log
  let agent ← (RemoteAgent.make settings (fileText w)).mapError (·.text)
  let (requests, tunnels) := agent.addresses
  if !w.canListen requests then throw ("Failed to bind HTTP listener on " ++ requests)
  if requests == tunnels || !w.canListen tunnels then throw ("Failed to bind CONNECT listener on " ++ tunnels)
  return agent

def startClient (w : Surroundings) (path : String) : Except String LocalAgent := do
  let settings ← loadSettings w LocalSettings.read {} path
  let _ ← logging w settings.log
  let agent ← (LocalAgent.make settings).mapError (·.text)
  if !w.canListen agent.address then throw ("Failed to bind proxy listener on " ++ agent.address)
  return agent

def Outcome.ofStart {α : Type} : Except String α → Outcome
  | .ok _ => .serving
  | .error message => .failed message

def run (w : Surroundings) (args : List String) : Outcome :=
  match parse args with
  | .help => .help
  | .misuse => .misuse
  | .run (.server path) => .ofStart (startServer w path)
  | .run (.client path) => .ofStart (startClient w path)
  | .run .secret => .printed (Secret.keyText w.random)

end TwoHop.CommandLine
