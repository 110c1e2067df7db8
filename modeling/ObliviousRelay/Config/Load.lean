import ObliviousRelay.Config.Decode
import ObliviousRelay.Config.Rules
import ObliviousRelay.Toml.Document

/-!
# Loading a configuration

A configuration is read from a file, or is the built-in one; then the environment overrides two of
its fields; then its rules are checked.

- `load`, `parse` and `builtIn` give a configuration that breaks no rule, or why there is none.
-/

namespace ObliviousRelay.Config

/-- The settings that the environment overrides. -/
structure Environment where
  bindAddress : Option String := none
  logLevel : Option String := none
  deriving DecidableEq, Repr, Inhabited

/-- What stands at the path of a configuration file. -/
inductive File where
  | missing
  | directory
  | content (bytes : ByteArray)

/-- Why a file cannot be read. -/
inductive ReadFault where
  | missing
  | directory
  | encoding
  deriving DecidableEq, Repr

/-- The wording of a reading fault. -/
def ReadFault.message : ReadFault → String
  | missing => "No such file or directory (os error 2)"
  | directory => "Is a directory (os error 21)"
  | encoding => "stream did not contain valid UTF-8"

/-- Why there is no configuration. -/
inductive LoadFault where
  | file (fault : ReadFault)
  /-- The text is no document. -/
  | syntaxFault
  /-- The document is no configuration. -/
  | document (fault : Fault)
  /-- The configuration breaks rules. -/
  | rules (problems : List Problem)
  deriving DecidableEq, Repr

/-- The wording of a list of broken rules. -/
def rulesMessage (problems : List Problem) : String :=
  "Validation failed: " ++ ", ".intercalate (problems.map Problem.text)

/-- A configuration with the overrides of the environment. -/
def override (env : Environment) (c : Config) : Config :=
  { c with
    listener := { c.listener with bindAddress := env.bindAddress.getD c.listener.bindAddress }
    observability := { c.observability with
      logLevel := env.logLevel.getD c.observability.logLevel } }

/-- Applies the environment and checks the rules. -/
def finish (env : Environment) (c : Config) : Except LoadFault Config :=
  let c := override env c
  if (problems c).isEmpty then .ok c else .error (.rules (problems c))

/-- Reads a configuration from the text of a document. -/
def parse (env : Environment) (text : String) : Except LoadFault Config :=
  match Toml.parse? text with
  | none => .error .syntaxFault
  | some t =>
    match ofTree .toml t with
    | .error fault => .error (.document fault)
    | .ok c => finish env c

/-- The configuration in use where no file is given. -/
def builtIn (env : Environment) : Except LoadFault Config := finish env {}

/-- The text of a file. -/
def File.read : File → Except ReadFault String
  | missing => .error .missing
  | directory => .error .directory
  | content bytes =>
    match String.fromUTF8? bytes with
    | some s => .ok s
    | none => .error .encoding

/-- Reads a configuration from a file. -/
def load (env : Environment) (file : File) : Except LoadFault Config :=
  match file.read with
  | .error fault => .error (.file fault)
  | .ok text => parse env text

end ObliviousRelay.Config
