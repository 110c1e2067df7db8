import ObliviousRelay.Config.Schema
import ObliviousRelay.Config.Tree

/-!
# Writing a configuration as a settings tree

Every field is written, in schema order; an absent option is null.
-/

namespace ObliviousRelay.Config

/-- A word as a tree. -/
def wordTree (n : UInt64) : Tree := .integer n.toNat

/-- An option as a tree, null when absent. -/
def optionTree (f : α → Tree) : Option α → Tree
  | some a => f a
  | none => .null

/-- A listener as a tree. -/
def Listener.tree (s : Listener) : Tree := .table [
  ("bind_address", .text s.bindAddress),
  ("unix_socket", optionTree .text s.unixSocket),
  ("max_inflight", wordTree s.maxInflight)]

/-- The routing section as a tree. -/
def Routing.tree (s : Routing) : Tree := .table [
  ("path_prefix", .text s.pathPrefix),
  ("selector_header", .text s.selectorHeader),
  ("default_gateway", optionTree .text s.defaultGateway)]

/-- The size limits as a tree. -/
def Limits.tree (s : Limits) : Tree := .table [
  ("max_body_size", wordTree s.maxBodySize),
  ("max_response_size", wordTree s.maxResponseSize)]

/-- The time limits as a tree. -/
def Timeouts.tree (s : Timeouts) : Tree := .table [
  ("connect_ms", wordTree s.connectMs),
  ("request_ms", wordTree s.requestMs),
  ("queue_wait_ms", wordTree s.queueWaitMs),
  ("idle_ms", wordTree s.idleMs)]

/-- The retry settings as a tree. -/
def Retries.tree (s : Retries) : Tree := .table [
  ("connect_attempts", .integer s.connectAttempts.toNat),
  ("base_delay_ms", wordTree s.baseDelayMs),
  ("max_delay_ms", wordTree s.maxDelayMs)]

/-- The settings of logs and metrics as a tree. -/
def Observability.tree (s : Observability) : Tree := .table [
  ("log_level", .text s.logLevel),
  ("log_format", .text s.logFormat.name),
  ("metrics_enabled", .boolean s.metricsEnabled),
  ("metrics_address", .text s.metricsAddress)]

/-- A gateway as a tree. -/
def Gateway.tree (g : Gateway) : Tree := .table [
  ("name", .text g.name),
  ("endpoint", .text g.endpoint),
  ("accepted_media_types", .sequence (g.acceptedMediaTypes.map fun m => .text m.text)),
  ("max_body_size", optionTree wordTree g.maxBodySize),
  ("pool_size", wordTree g.poolSize),
  ("request_timeout_ms", optionTree wordTree g.requestTimeoutMs),
  ("queue_wait_ms", optionTree wordTree g.queueWaitMs)]

/-- A configuration as a tree. -/
def tree (c : Config) : Tree := .table [
  ("listener", c.listener.tree),
  ("routing", c.routing.tree),
  ("limits", c.limits.tree),
  ("timeouts", c.timeouts.tree),
  ("retries", c.retries.tree),
  ("observability", c.observability.tree),
  ("gateways", .sequence (c.gateways.map Gateway.tree))]

end ObliviousRelay.Config
