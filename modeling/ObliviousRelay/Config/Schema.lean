import ObliviousRelay.MediaType

/-!
# Configuration

The settings of a relay, in seven sections. Every field of every section has a default; of a
gateway only the name and the endpoint have none.

- `Config` is the whole configuration; `({} : Config)` is the one that names nothing.
- `Config.Gateway` is one permitted gateway; its three optional fields override global ones.
-/

namespace ObliviousRelay

namespace Config

/-- Where the relay listens. -/
structure Listener where
  /-- Address and port, in use when there is no Unix socket. -/
  bindAddress : String := "0.0.0.0:3000"
  unixSocket : Option String := none
  /-- Exchanges processed at the same time. -/
  maxInflight : UInt64 := 10000
  deriving DecidableEq, Repr

/-- How inbound requests name their gateway. -/
structure Routing where
  /-- The relay's route; the gateway may follow as one more path segment. -/
  pathPrefix : String := "/gateway"
  /-- The header that names the gateway when the path carries none. -/
  selectorHeader : String := "ohttp-gateway"
  /-- The gateway used when neither the path nor the header names one. -/
  defaultGateway : Option String := none
  deriving DecidableEq, Repr

/-- Size limits of encapsulated messages, in bytes. -/
structure Limits where
  maxBodySize : UInt64 := 65536
  maxResponseSize : UInt64 := 1048576
  deriving DecidableEq, Repr

/-- Time limits, in milliseconds. -/
structure Timeouts where
  /-- One connection attempt. -/
  connectMs : UInt64 := 2000
  /-- A whole exchange with a gateway, and separately the upload of a request. -/
  requestMs : UInt64 := 10000
  /-- The wait for a free slot of a pool. -/
  queueWaitMs : UInt64 := 1000
  /-- The age at which an idle connection is closed. -/
  idleMs : UInt64 := 60000
  deriving DecidableEq, Repr

/-- Repetition of failed connection attempts. -/
structure Retries where
  /-- Connection attempts in all, so that 1 means no repetition. -/
  connectAttempts : UInt32 := 3
  baseDelayMs : UInt64 := 50
  maxDelayMs : UInt64 := 500
  deriving DecidableEq, Repr

/-- The form of log lines. -/
inductive LogFormat where
  | pretty
  | json
  deriving DecidableEq, Repr, Inhabited

/-- The name of a log format. -/
def LogFormat.name : LogFormat → String
  | pretty => "pretty"
  | json => "json"

/-- Logs and metrics. -/
structure Observability where
  logLevel : String := "info"
  logFormat : LogFormat := .pretty
  metricsEnabled : Bool := false
  metricsAddress : String := "127.0.0.1:9090"
  deriving DecidableEq, Repr

/-- A permitted gateway. -/
structure Gateway where
  /-- The name used by the path or header selector. -/
  name : String
  /-- The URL that messages are sent to. -/
  endpoint : String
  acceptedMediaTypes : List MediaType := [.request]
  /-- Overrides the global request size limit. -/
  maxBodySize : Option UInt64 := none
  /-- Connections open at the same time. -/
  poolSize : UInt64 := 16
  /-- Overrides the global exchange deadline. -/
  requestTimeoutMs : Option UInt64 := none
  /-- Overrides the global queue wait. -/
  queueWaitMs : Option UInt64 := none
  deriving DecidableEq, Repr, Inhabited

end Config

/-- The configuration of a relay. -/
structure Config where
  listener : Config.Listener := {}
  routing : Config.Routing := {}
  limits : Config.Limits := {}
  timeouts : Config.Timeouts := {}
  retries : Config.Retries := {}
  observability : Config.Observability := {}
  gateways : List Config.Gateway := []
  deriving DecidableEq, Repr

instance : Inhabited Config := ⟨{}⟩

end ObliviousRelay
