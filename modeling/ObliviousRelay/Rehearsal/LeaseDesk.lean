import ObliviousRelay.Rehearsal.World

/-!
# Rehearsing leases

The client of the gateways without the relay in front: leases are asked for, used and given back by
name, one after the other.

- Each step gives the desk after it, and what it came to.
-/

namespace ObliviousRelay.Rehearsal

/-- What a step comes to. -/
inductive StepResult where
  /-- The step's own word. -/
  | word (s : String)
  | leased (reused : Bool) (target : String)
  | replied (r : Gateway.Reply) (reused : Bool)
  | failed (f : Failure)
  | response (r : Http.Response)
  /-- Whether the relay has ended. -/
  | stopped (b : Bool)
  /-- The client could not connect. -/
  | unconnected
  /-- The client waits in vain. -/
  | unanswered
  /-- The relay broke the client's connection off. -/
  | brokenOff
  /-- An exchange broke down. -/
  | overflowed

/-- A client of gateways in a rehearsal, and its leases by name. -/
structure LeaseDesk where
  world : World
  /-- The gateway and the number of each lease. -/
  leases : List (String × String × Nat) := []
  /-- Leases ever asked for. -/
  made : Nat := 0

namespace LeaseDesk

/-- A relay that nobody visits. -/
def unvisited (c : Config) : Relay where
  engine := .ofConfig c
  route := ⟨c.routing.pathPrefix, ⟨c.routing.selectorHeader⟩, c.limits.maxBodySize.toNat⟩
  routes := ⟨[], []⟩
  maxInflight := 0
  inboundTimeout := 0
  client := .ofRegistry (.ofConfig c) (.ofConfig c)

/-- A client of the gateways of a configuration; none if a pool has no room. -/
def open? (c : Config) (network : Network) (script : List Act) : Option LeaseDesk :=
  let registry := Registry.ofConfig c
  if registry.targets.any fun t => !Gateway.Pool.canHold t.poolSize then none
  else some { world := {
    relay := unvisited c, network, script
    journal := (Registry.skipped c).map fun (name, fault) =>
      .invalidEndpoint name fault.message } }

/-- The lease of a name. -/
def lease? (d : LeaseDesk) (id : String) : Option (String × Nat) := d.leases.lookup id

/-- What an exchange came to. -/
def resultOf? (w : World) (x : Nat) : Option Result := w.results.lookup x

/-- Lets an exchange go on until it comes to something, from no result on. -/
def await (d : LeaseDesk) (x : Nat) (gateway : String) (e : Gateway.Event) : LeaseDesk :=
  let world := { d.world with results := [] }.feed (.station gateway e)
  { d with world := world.runUntil fun w => (resultOf? w x).isSome }

/-- Asks for a lease for a target. -/
def lease (d : LeaseDesk) (id : String) (t : Target) : LeaseDesk × StepResult :=
  match d.world.relay.client.stationFor t with
  | .error f => (d, .failed f)
  | .ok s =>
    let x := d.made
    let d := { d with made := d.made + 1 }.await x s.target.name (.request x t.requestTimeout)
    match resultOf? d.world x with
    | some (.leased reused) =>
      ({ d with leases := (id, s.target.name, x) :: d.leases }, .leased reused s.target.name)
    | some (.failed f) => (d, .failed f)
    | some .overflowed => (d, .overflowed)
    | _ => (d, .unanswered)

/-- Sends a message on a lease. -/
def send (d : LeaseDesk) (gateway : String) (x : Nat) (o : Gateway.Outbound) :
    LeaseDesk × StepResult :=
  let d := d.await x gateway (.send x o)
  match resultOf? d.world x with
  | some (.replied r reused) => (d, .replied r reused)
  | some (.failed f) => (d, .failed f)
  | some .overflowed => (d, .overflowed)
  | _ => (d, .unanswered)

/-- Ends a lease by an event, without waiting. -/
def finish (d : LeaseDesk) (id gateway : String) (e : Gateway.Event) (word : String) :
    LeaseDesk × StepResult :=
  let world := (d.world.feed (.station gateway e)).runUntil fun _ => true
  ({ d with world, leases := d.leases.filter (·.1 ≠ id) }, .word word)

/-- Gives a lease back. -/
def release (d : LeaseDesk) (id gateway : String) (x : Nat) : LeaseDesk × StepResult :=
  d.finish id gateway (.release x) "released"

/-- Gives a lease up. -/
def drop (d : LeaseDesk) (id gateway : String) (x : Nat) : LeaseDesk × StepResult :=
  d.finish id gateway (.drop x) "dropped"

end LeaseDesk

namespace World

/-! ## Steps that concern the world alone -/

/-- Time passes. -/
def sleep (w : World) (duration : Nat) : World × StepResult := (w.advance duration, .word "slept")

/-- A gate is opened. -/
def openStep (w : World) (gate : String) : World × StepResult := (w.openGate gate, .word "opened")

/-- The gateway hangs up. -/
def hangUpStep (w : World) : World × StepResult := (w.hangUp, .word "hung up")

/-- The gateway will refuse so many connections. -/
def refuse (w : World) (count : Nat) : World × StepResult :=
  ({ w with network := { w.network with refusals := count } }, .word "refusing")

end World

end ObliviousRelay.Rehearsal
