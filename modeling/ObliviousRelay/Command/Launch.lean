import ObliviousRelay.Command.Arguments
import ObliviousRelay.Config.Load
import ObliviousRelay.Relay.Startup

/-!
# Launching a relay

From a command line to a relay that listens: the arguments are read, then the configuration, the
relay is built, and its listener bound. The first step that fails ends the launch.

- `launch` gives the relay and its listener, or how the launch ended.
- `Ending.exitCode` is the exit code of each ending.
-/

namespace ObliviousRelay.Command

/-- Where a relay is launched: its environment, its files and its sockets. -/
structure Surroundings where
  environment : Config.Environment := {}
  /-- The configuration file that the environment names. -/
  configPath : Option String := none
  /-- What stands at a path. -/
  file : String → Config.File := fun _ => .missing
  certificates : List Gateway.Certificate := []
  host : Net.Host := {}

/-- How a launch ends without a relay. -/
inductive Ending where
  /-- Help was printed. -/
  | helped
  /-- The command line does not fit. -/
  | usage
  | config (fault : Config.LoadFault)
  | startup (fault : StartupFault)

namespace Ending

/-- Whether a fault stops the program where it stands, so that nothing is reported of it. -/
def isAbrupt : StartupFault → Bool
  | .tls _ => false
  | .listener _ => false
  | _ => true

/-- The exit code of an ending. -/
def exitCode : Ending → Nat
  | helped => 0
  | usage => 2
  | config _ => 1
  | startup fault => if isAbrupt fault then 101 else 1

end Ending

/-- A relay that listens. -/
structure Launched where
  config : Config
  relay : Relay
  listener : Net.Listener

/-- The configuration that a command line asks for. -/
def configuration (s : Surroundings) (path : Option String) : Except Config.LoadFault Config :=
  match path with
  | some path => Config.load s.environment (s.file path)
  | none => Config.builtIn s.environment

/-- Launches a relay. -/
def launch (s : Surroundings) (words : List String) : Except Ending Launched :=
  match Arguments.ofList words s.configPath with
  | none => .error .usage
  | some .help => .error .helped
  | some (.serve path) => match configuration s path with
    | .error fault => .error (.config fault)
    | .ok config => match Relay.build config s.certificates with
      | .error fault => .error (.startup fault)
      | .ok relay => match (s.host.bind "relay" config.listener).2 with
        | .error fault => .error (.startup (.listener fault))
        | .ok listener => .ok ⟨config, relay, listener⟩

end ObliviousRelay.Command
