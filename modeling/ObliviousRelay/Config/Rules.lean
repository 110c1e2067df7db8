import ObliviousRelay.Config.Schema
import ObliviousRelay.Http.Field
import ObliviousRelay.Net.SocketAddress
import ObliviousRelay.Url.Parser

/-!
# The rules of a configuration

What a configuration has to meet before a relay runs with it. Every broken rule is reported, each
under the field it is about, in a fixed order: the sections first, then the gateways in their order,
and the default gateway last.

- `Config.problems` lists the broken rules; a configuration is valid when there are none.
-/

namespace ObliviousRelay.Config

/-- A broken rule: the field it is about and what is wrong with it. -/
structure Problem where
  field : String
  message : String
  deriving DecidableEq, Repr

/-- A problem as text. -/
def Problem.text (p : Problem) : String := p.field ++ ": " ++ p.message

/-- The problem of a field, if its rule is broken. -/
def broken (isBroken : Bool) (field message : String) : List Problem :=
  if isBroken then [⟨field, message⟩] else []

/-- The problem of a number that is zero. -/
def zero (isZero : Bool) (field : String) : List Problem :=
  broken isZero field "must be greater than 0"

/-- A route starts with a slash and, unless it is the root, does not end with one. -/
def isRoute (s : String) : Bool :=
  s.startsWith "/" && (s == "/" || !s.endsWith "/")

/-- The problems of the sections. -/
def sectionProblems (c : Config) : List Problem :=
  broken (c.listener.unixSocket.isNone && (Net.SocketAddress.parse? c.listener.bindAddress).isNone)
    "listener.bind_address" "not a socket address" ++
  zero (c.listener.maxInflight == 0) "listener.max_inflight" ++
  broken (!isRoute c.routing.pathPrefix)
    "routing.path_prefix" "must start with '/' and have no trailing '/'" ++
  broken (Http.FieldName.ofText? c.routing.selectorHeader).isNone
    "routing.selector_header" "not a valid header name" ++
  zero (c.limits.maxBodySize == 0) "limits.max_body_size" ++
  zero (c.limits.maxResponseSize == 0) "limits.max_response_size" ++
  zero (c.timeouts.connectMs == 0) "timeouts.connect_ms" ++
  zero (c.timeouts.requestMs == 0) "timeouts.request_ms" ++
  zero (c.timeouts.queueWaitMs == 0) "timeouts.queue_wait_ms" ++
  zero (c.timeouts.idleMs == 0) "timeouts.idle_ms" ++
  broken (c.retries.connectAttempts == 0) "retries.connect_attempts" "must be at least 1"

/-- A name that a path segment can carry. -/
def isName (s : String) : Bool := !s.isEmpty && !s.toList.contains '/'

/-- The problem of a gateway's name, given the names before it. -/
def nameProblem (field : String → String) (earlier : List String) (name : String) : List Problem :=
  if !isName name then [⟨field "name", "must be non-empty and contain no '/'"⟩]
  else if earlier.contains name then [⟨field "name", "duplicate name '" ++ name ++ "'"⟩]
  else []

/-- The problem of a gateway's endpoint. -/
def endpointProblem (field : String → String) (endpoint : String) : List Problem :=
  match Url.parse endpoint with
  | .error fault => [⟨field "endpoint", fault.message⟩]
  | .ok url =>
    broken (!((url.scheme = "http" || url.scheme = "https") && url.host?.isSome))
      (field "endpoint") "must be an http or https URL with a host"

/-- The problems of the gateway at a position, given the names before it. -/
def gatewayProblems (position : Nat) (earlier : List String) (g : Gateway) : List Problem :=
  let field := fun (name : String) => "gateways[" ++ toString position ++ "]." ++ name
  nameProblem field earlier g.name ++
  endpointProblem field g.endpoint ++
  broken g.acceptedMediaTypes.isEmpty (field "accepted_media_types") "must not be empty" ++
  zero (g.poolSize == 0) (field "pool_size") ++
  zero (g.maxBodySize == some 0) (field "max_body_size") ++
  zero (g.requestTimeoutMs == some 0) (field "request_timeout_ms") ++
  zero (g.queueWaitMs == some 0) (field "queue_wait_ms")

/-- The problems of the gateways from a position on. -/
def gatewayListProblems (position : Nat) (earlier : List String) : List Gateway → List Problem
  | [] => []
  | g :: rest =>
    gatewayProblems position earlier g ++ gatewayListProblems (position + 1) (g.name :: earlier) rest

/-- The problem of the default gateway. -/
def defaultProblem (c : Config) : List Problem :=
  match c.routing.defaultGateway with
  | some name =>
    broken (!c.gateways.any (·.name == name))
      "routing.default_gateway" ("no gateway named '" ++ name ++ "'")
  | none => []

/-- The broken rules of a configuration, in order. -/
def problems (c : Config) : List Problem :=
  sectionProblems c ++ gatewayListProblems 0 [] c.gateways ++ defaultProblem c

/-- A configuration that breaks no rule. -/
def isValid (c : Config) : Bool := (problems c).isEmpty

end ObliviousRelay.Config
