import ObliviousRelay.Command.Launch
import ObliviousRelay.Log.Directive

/-!
# The program

Takes a command line, and reports the relay that it asks for: its gateways and what it would listen
on. Sockets are left to the system that runs a relay.
-/

namespace ObliviousRelay.Command

/-- The text of an ending that is reported. -/
def Ending.report : Ending → String
  | helped => Command.usage
  | usage => "error: unexpected command line\n\n" ++ Command.usage
  | config (.file fault) => "Error: IO error: " ++ fault.message
  | config .syntaxFault => "Error: the configuration file is no document"
  | config (.document fault) => "Error: " ++ fault.message
  | config (.rules problems) => "Error: " ++ Config.rulesMessage problems
  | startup fault => "Error: " ++ fault.message

/-- What stands at a path of the system. -/
def fileAt (path : String) : IO Config.File := do
  try
    return .content (← IO.FS.readBinFile path)
  catch _ => return .missing

/-- The surroundings that the system gives. -/
def surroundings (words : List String) : IO Surroundings := do
  let configPath ← IO.getEnv "OHTTP_RELAY_CONFIG"
  let path := match Arguments.ofList words configPath with
    | some (.serve path) => path
    | _ => none
  let file ← match path with
    | some path => fileAt path
    | none => pure .missing
  return {
    environment := {
      bindAddress := ← IO.getEnv "OHTTP_RELAY_BIND_ADDRESS"
      logLevel := ← IO.getEnv "OHTTP_RELAY_LOG_LEVEL" }
    configPath
    file := fun _ => file }

/-- The lines that report a relay. -/
def Launched.report (l : Launched) : List String :=
  ["log filter " ++ Log.directive l.config.observability.logLevel,
    "listening on " ++ match l.listener with
      | .tcp address => l.listener.describe (toString address.port.toNat)
      | _ => l.listener.describe ""] ++
    (Relay.buildEntries l.config []).map fun e =>
      e.level.text ++ " " ++ e.message ++
        String.join (e.fields.map fun (name, text) => " " ++ name ++ "=" ++ text)

end ObliviousRelay.Command

/-- Launches a relay and reports it. -/
def main (words : List String) : IO UInt32 := do
  match ObliviousRelay.Command.launch (← ObliviousRelay.Command.surroundings words) words with
  | .error .helped => IO.print ObliviousRelay.Command.usage; return 0
  | .error ending => IO.eprintln ending.report; return UInt32.ofNat ending.exitCode
  | .ok launched =>
    for line in launched.report do IO.println line
    return 0
