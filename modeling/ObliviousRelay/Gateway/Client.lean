import ObliviousRelay.Gateway.Station
import ObliviousRelay.Routing.Registry

/-!
# The client of all gateways

One station for each target of the registry, each with its own pool; the clock is common. What
happens at one station leaves the others alone.

- `Client.step` is the effect of one event at one station, `Client.elapse` lets time pass.
-/

namespace ObliviousRelay.Gateway

/-- The stations of all gateways. -/
structure Client where
  stations : List Station
  deriving DecidableEq

namespace Client

/-- The stations of the targets of a registry. -/
def ofRegistry (r : Registry) (policy : Policy) : Client :=
  ⟨r.targets.map (Station.ofTarget · policy)⟩

/-- The station of a gateway. -/
def station? (c : Client) (gateway : String) : Option Station :=
  c.stations.find? (·.target.name = gateway)

/-- The station that serves leases for a target: the one of its name. -/
def stationFor (c : Client) (t : Target) : Except Failure Station :=
  match c.station? t.name with
  | some s => .ok s
  | none => .error .unknownGateway

/-- Puts a station in the place of the one of its name. -/
def update (c : Client) (s : Station) : Client :=
  ⟨c.stations.map fun old => if old.target.name = s.target.name then s else old⟩

/-- The effect of one event at one station. -/
def step (c : Client) (gateway : String) (e : Event) : Client × List Effect :=
  match c.station? gateway with
  | none => (c, [])
  | some s =>
    let (s, effects) := s.step e
    (c.update s, effects)

/-- Whether time may pass up to a moment at every station. -/
def mayElapse (c : Client) (moment : Nat) : Bool := c.stations.all (·.mayElapse moment)

/-- Lets time pass at every station. -/
def elapse (c : Client) (duration : Nat) : Client :=
  ⟨c.stations.map fun s => (s.step (.elapse duration)).1⟩

/-- What the pools tell about themselves, by gateway. -/
def stats (c : Client) : List (String × Pool.Stats) :=
  c.stations.map fun s => (s.target.name, s.pool.stats)

end Client

end ObliviousRelay.Gateway
