import ObliviousRelay.Config.Schema
import ObliviousRelay.Message
import ObliviousRelay.Url.Parser

/-!
# Targets

A target is a permitted gateway with its effective policy: the global limits and times are folded
in where the gateway does not override them. Times are in milliseconds.

- `Target.ofGateway` resolves a gateway of a configuration; only an endpoint that is no URL prevents
  it.
- `Target.check` is the policy that a message has to meet.
- `Target.hostHeader`, `Target.requestPath` and `Target.dialled?` take the endpoint apart for the
  outbound request and for the connection.
-/

namespace ObliviousRelay

/-- A permitted gateway with its effective policy. -/
structure Target where
  name : String
  endpoint : Url
  acceptedMediaTypes : List MediaType
  maxBodySize : Nat
  poolSize : Nat
  requestTimeout : Nat
  queueWait : Nat
  deriving DecidableEq, Repr

namespace Target

/-- Resolves a gateway against the global settings. -/
def ofGateway (config : Config) (g : Config.Gateway) : Except Url.Fault Target :=
  (Url.parse g.endpoint).map fun endpoint => {
    name := g.name
    endpoint
    acceptedMediaTypes := g.acceptedMediaTypes
    maxBodySize := (g.maxBodySize.getD config.limits.maxBodySize).toNat
    poolSize := g.poolSize.toNat
    requestTimeout := (g.requestTimeoutMs.getD config.timeouts.requestMs).toNat
    queueWait := (g.queueWaitMs.getD config.timeouts.queueWaitMs).toNat }

/-- Whether a gateway accepts messages of a type. -/
def accepts (t : Target) (m : MediaType) : Bool := t.acceptedMediaTypes.contains m

/-- Checks a message against the policy: its type first, then its size. -/
def check (t : Target) (m : Message) : Except Failure Unit :=
  if !t.accepts m.mediaType then .error .policyViolation
  else if t.maxBodySize < m.length then .error (.malformedMessage .tooLarge)
  else .ok ()

/-- The value of the outbound Host field. -/
def hostHeader (t : Target) : String :=
  let host := match t.endpoint.host? with
    | some h => h.text
    | none => ""
  match t.endpoint.port? with
  | some port => host ++ ":" ++ toString port.toNat
  | none => host

/-- The outbound request target: path and query. -/
def requestPath (t : Target) : String :=
  match t.endpoint.query with
  | some query => t.endpoint.path ++ "?" ++ query
  | none => t.endpoint.path

/-- Whether the gateway is reached over TLS. -/
def isSecure (t : Target) : Bool := t.endpoint.scheme = "https"

end Target

end ObliviousRelay
