import TwoHop.CommandLine

/-! The program. It starts an agent as far as that goes without sockets: no address can be listened
on here. -/

namespace TwoHop

def usage : String := "Forward proxy tunnelling HTTP and CONNECT traffic through a remote agent

Usage: deadbeef <COMMAND>

Commands:
  server  Start the remote agent
  client  Start the local agent
  secret  Print a fresh random secret key
  help    Print this message or the help of the given subcommand(s)

Options:
      --config <CONFIG>  Path to the agent's configuration file
  -h, --help             Print help"

def readContent (path : String) : IO CommandLine.Content := do
  try
    return .bytes (← IO.FS.readBinFile path)
  catch e =>
    match e with
    | .noFileOrDirectory .. => return .absent
    | .noSuchThing .. => return .absent
    | e => return .failed ⟨.other, toString e, []⟩

def pathsOf (w : CommandLine.Surroundings) (args : List String) : List String :=
  match CommandLine.parse args with
  | .run (.server path) => match CommandLine.loadSettings w RemoteSettings.read {} path with
    | .ok s => s.log.themePath :: (s.tls.certPath.toList ++ s.tls.keyPath.toList)
    | .error _ => []
  | .run (.client path) => match CommandLine.loadSettings w LocalSettings.read {} path with
    | .ok s => [s.log.themePath]
    | .error _ => []
  | _ => []

def settingsPath? (args : List String) : Option String :=
  match CommandLine.parse args with
  | .run (.server path) | .run (.client path) => some path
  | _ => none

def readAll (paths : List String) : IO (List (String × CommandLine.Content)) :=
  paths.mapM fun p => do return (p, ← readContent p)

def surroundings (files : List (String × CommandLine.Content)) (random : ByteArray) :
    CommandLine.Surroundings where
  read path := (files.lookup path).getD .absent
  canListen _ := false
  random

end TwoHop

open TwoHop

def main (args : List String) : IO UInt32 := do
  let random ← IO.getRandomBytes Secret.keySize.toUSize
  let first ← readAll (settingsPath? args).toList
  let w := surroundings first random
  let w := surroundings (first ++ (← readAll (pathsOf w args))) random
  let outcome := CommandLine.run w args
  match outcome with
  | .printed text => IO.println text
  | .failed message => IO.eprintln ("Error: " ++ message)
  | .help => IO.println usage
  | .misuse => IO.eprintln usage
  | .serving => pure ()
  return outcome.code.toUInt32
