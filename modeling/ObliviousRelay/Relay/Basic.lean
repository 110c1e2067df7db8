import ObliviousRelay.Forwarding.Engine
import ObliviousRelay.Gateway.Client
import ObliviousRelay.Http.Inbound
import ObliviousRelay.Http.Response
import ObliviousRelay.Http.Routes
import ObliviousRelay.Metrics

/-!
# Relays

A relay with everything that it serves at one moment. A visit is one request from its arrival to its
answer: it waits for its turn, uploads its body, and is an exchange with a gateway after that.

- `Relay.visit?` finds a visit, `Relay.running` counts those whose turn has come.
- The exchange of a visit bears the visit's number.
-/

namespace ObliviousRelay

open Gateway (Client)

/-- Where a visit stands. `due` is the moment at which it has taken too long. -/
inductive VisitPhase where
  /-- Its turn has not come. -/
  | waiting (head : Http.RequestHead)
  /-- Its head was accepted, and these pieces of its body have come. -/
  | uploading (due : Nat) (a : Http.Admission) (body : Http.Body)
  /-- It is an exchange with a gateway, to which it sends a message. -/
  | exchanging (due : Nat) (gateway : String) (m : Message)
  deriving DecidableEq

/-- A request that has not been answered. -/
structure Visit where
  id : Nat
  method : String
  phase : VisitPhase
  deriving DecidableEq

namespace Visit

/-- Whether the turn of a visit has come. -/
def isRunning (v : Visit) : Bool :=
  match v.phase with
  | .waiting _ => false
  | _ => true

/-- The moment at which a visit has taken too long. -/
def due? (v : Visit) : Option Nat :=
  match v.phase with
  | .waiting _ => none
  | .uploading due _ _ => some due
  | .exchanging due _ _ => some due

end Visit

/-- A relay and what it serves. -/
structure Relay where
  engine : Engine
  route : Http.Route
  routes : Http.Routes
  /-- How many visits may run at a time. -/
  maxInflight : Nat
  /-- How long a visit may take once its turn has come. -/
  inboundTimeout : Nat
  client : Client
  now : Nat := 0
  /-- The visits, in order of arrival. -/
  visits : List Visit := []
  metrics : Metrics := {}
  deriving DecidableEq

namespace Relay

/-- A visit by its number. -/
def visit? (r : Relay) (v : Nat) : Option Visit := r.visits.find? (·.id = v)

/-- How many visits run. -/
def running (r : Relay) : Nat := r.visits.countP (·.isRunning)

/-- Moves a visit to a phase. -/
def setPhase (r : Relay) (v : Nat) (p : VisitPhase) : Relay :=
  { r with visits := r.visits.map fun w => if w.id = v then { w with phase := p } else w }

/-- Takes a visit away. -/
def erase (r : Relay) (v : Nat) : Relay :=
  { r with visits := r.visits.filter (·.id ≠ v) }

/-- The longest time that an exchange may take, and before it the upload: the slowest target's wait
for a slot and deadline. -/
def inboundTimeoutOf (registry : Registry) (requestTimeout : Nat) : Nat :=
  registry.targets.foldl (fun most t => max most (t.queueWait + t.requestTimeout)) 0 + requestTimeout

end Relay

end ObliviousRelay
