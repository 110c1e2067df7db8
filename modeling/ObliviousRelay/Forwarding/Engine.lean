import ObliviousRelay.Gateway.Exchange
import ObliviousRelay.Routing.Registry

/-!
# Forwarding

One exchange from a selector to an encapsulated response. The target is resolved and its policy
checked before anything goes out; then a connection is leased, the message sent once, and the lease
released whatever came of it.

- `Engine.prepare` resolves and checks, `Engine.interpret` judges a reply.
- `Engine.forward` is the whole exchange over a `Transport`, with the calls that it makes.
-/

namespace ObliviousRelay

open Gateway (Outbound Reply)

/-- What carries messages to gateways: leases of connections, and one sending on a lease. -/
structure Transport (Lease : Type) where
  lease : Target → Except Failure Lease
  send : Lease → Outbound → Except Failure Reply

/-- One call to a transport. -/
inductive Call where
  | lease (t : Target)
  | send (t : Target) (o : Outbound)
  | release (t : Target)
  deriving DecidableEq

/-- A lease in the hands of an exchange, with the target that it is for. -/
structure Leased (Lease : Type) where
  target : Target
  lease : Lease

/-- What is done with a transport. A failure ends it there; the calls made by then stay made. -/
abbrev Calling := ExceptT Failure (StateM (List Call))

namespace Calling

/-- Makes a call. -/
def note (c : Call) : Calling Unit := modifyGet fun calls => ((), calls ++ [c])

/-- Ends with a failure, or goes on with what there is. -/
def settle (x : Except Failure α) : Calling α := ExceptT.mk (pure x)

/-- Does something whose failure is to be looked at later. -/
def observe (x : Calling α) : Calling (Except Failure α) := ExceptT.lift x.run

end Calling

namespace Transport

variable {Lease : Type}

/-- Asks for a lease. -/
def acquire (transport : Transport Lease) (t : Target) : Calling (Leased Lease) := do
  Calling.note (.lease t)
  return ⟨t, ← Calling.settle (transport.lease t)⟩

/-- Sends on a lease. -/
def deliver (transport : Transport Lease) (leased : Leased Lease) (o : Outbound) :
    Calling Reply := do
  Calling.note (.send leased.target o)
  Calling.settle (transport.send leased.lease o)

/-- Gives a lease back. -/
def giveBack (_ : Transport Lease) (leased : Leased Lease) : Calling Unit :=
  Calling.note (.release leased.target)

end Transport

/-- What drives exchanges. -/
structure Engine where
  registry : Registry
  maxResponseSize : Nat
  deriving DecidableEq, Repr

namespace Engine

/-- The engine of a configuration. -/
def ofConfig (config : Config) : Engine :=
  ⟨Registry.ofConfig config, config.limits.maxResponseSize.toNat⟩

/-- The target that a selector asks for, if the message meets its policy. -/
def prepare (e : Engine) (s : Selector) (m : Message) : Except Failure Target :=
  match e.registry.resolve s with
  | .error f => .error f
  | .ok t => match t.check m with
    | .error f => .error f
    | .ok () => .ok t

/-- Accepts only a successful reply that carries an encapsulated response within the bound. All else
is the gateway's error. -/
def interpret (e : Engine) (r : Reply) : Except Failure Message :=
  let declared := r.contentType.getD ""
  if !r.status.isSuccess then .error (.gatewayError ("status " ++ toString r.status.code))
  else if MediaType.parse? declared ≠ some .response then
    .error (.gatewayError "unexpected media type")
  else match Message.decode r.body declared e.maxResponseSize with
    | .error f => .error (.gatewayError f.message)
    | .ok m => .ok m

/-- Leases, sends and releases. How the sending went matters only once the lease is back. -/
def execute (e : Engine) (transport : Transport L) (t : Target) (m : Message) :
    Calling Message := do
  let leased ← transport.acquire t
  let sent ← Calling.observe (transport.deliver leased (Outbound.ofMessage m))
  transport.giveBack leased
  let reply ← Calling.settle sent
  Calling.settle (e.interpret reply)

/-- Prepares, then executes. -/
def exchange (e : Engine) (transport : Transport L) (s : Selector) (m : Message) :
    Calling Message := do
  let t ← Calling.settle (e.prepare s m)
  e.execute transport t m

/-- How an exchange ended, and the calls it made. -/
structure Run where
  result : Except Failure Message
  calls : List Call

/-- The whole exchange. -/
def forward (e : Engine) (transport : Transport L) (s : Selector) (m : Message) : Run :=
  let (result, calls) := (e.exchange transport s m).run.run []
  ⟨result, calls⟩

end Engine

end ObliviousRelay
