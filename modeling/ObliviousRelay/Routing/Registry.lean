import ObliviousRelay.Routing.Selector
import ObliviousRelay.Routing.Target

/-!
# The registry of gateways

The permitted targets by name. A gateway whose endpoint is no URL is left out; of several gateways
of one name the last one counts.

- `Registry.ofConfig` builds the registry, `Registry.skipped` lists what it leaves out.
- `Registry.resolve` finds the target that a selector asks for.
-/

namespace ObliviousRelay

/-- The permitted targets, each under a name of its own. -/
structure Registry where
  targets : List Target
  /-- The name used where a request gives none. -/
  defaultGateway : Option String
  deriving DecidableEq, Repr

namespace Registry

/-- Puts a target in the place of the one of its name, or at the end. -/
def insert (targets : List Target) (t : Target) : List Target :=
  match targets with
  | [] => [t]
  | u :: rest => if u.name = t.name then t :: rest else u :: insert rest t

/-- The registry of a configuration. -/
def ofConfig (config : Config) : Registry where
  targets := config.gateways.foldl (fun targets g =>
    match Target.ofGateway config g with
    | .ok t => insert targets t
    | .error _ => targets) []
  defaultGateway := config.routing.defaultGateway

/-- The gateways that the registry leaves out, with the fault of their endpoints. -/
def skipped (config : Config) : List (String × Url.Fault) :=
  config.gateways.filterMap fun g =>
    match Target.ofGateway config g with
    | .ok _ => none
    | .error fault => some (g.name, fault)

/-- The target of a name. -/
def find? (r : Registry) (name : String) : Option Target :=
  r.targets.find? (·.name = name)

/-- The name that a selector asks for. -/
def nameOf? (r : Registry) : Selector → Option String
  | .named name => some name
  | .unnamed => r.defaultGateway

/-- The target that a selector asks for. -/
def resolve (r : Registry) (s : Selector) : Except Failure Target :=
  match (r.nameOf? s).bind r.find? with
  | some t => .ok t
  | none => .error .unknownGateway

/-- The number of targets. -/
def size (r : Registry) : Nat := r.targets.length

end Registry

end ObliviousRelay
