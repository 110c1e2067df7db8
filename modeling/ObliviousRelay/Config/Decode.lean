import ObliviousRelay.Config.Fault
import ObliviousRelay.Config.Schema

/-!
# Reading a configuration from a settings tree

A record is read from a table, whose entries are visited in order, or from a sequence of its fields
in schema order. Unknown entries are ignored and missing ones take their defaults. The first fault
met is reported; a required field that is missing is reported only after all entries were read.

- `Member` is a field of a record: its name and how it is set.
- `readRecord` reads a record with given members.
- `Config.ofTree` reads a whole configuration.

The two formats differ in two rules (`Dialect`): whether a sequence may be longer than its record,
and how a choice may be written.
-/

namespace ObliviousRelay.Config

/-- The format that a tree was written in. -/
inductive Dialect where
  | json
  | toml
  deriving DecidableEq, Repr

/-- A result of reading. -/
abbrev Reading := Except Fault

/-- Reads a value of one type from a tree. -/
abbrev Reader (α : Type) := Dialect → Tree → Reading α

/-! ## §1 Scalars -/

/-- Reads a text. -/
def readText : Reader String
  | _, .text s => .ok s
  | _, t => .error (.wrongType t.found "a string")

/-- Reads a truth value. -/
def readBool : Reader Bool
  | _, .boolean b => .ok b
  | _, t => .error (.wrongType t.found "a boolean")

/-- Reads a natural number below `2 ^ width`. -/
def readWord (width : Nat) (expected : String) : Reader Nat
  | _, .integer n =>
    if 0 ≤ n ∧ n.toNat < Nat.pow 2 width then .ok n.toNat
    else .error (.wrongValue (.integer n) expected)
  | _, t => .error (.wrongType t.found expected)

/-- Reads a size. -/
def readSize : Reader UInt64 := fun d t => UInt64.ofNat <$> readWord 64 "usize" d t

/-- Reads a number of milliseconds. -/
def readMillis : Reader UInt64 := fun d t => UInt64.ofNat <$> readWord 64 "u64" d t

/-- Reads a count. -/
def readCount : Reader UInt32 := fun d t => UInt32.ofNat <$> readWord 32 "u32" d t

/-- Reads a value that may be null. -/
def readOption (read : Reader α) : Reader (Option α)
  | _, .null => .ok none
  | d, t => some <$> read d t

/-- Reads a sequence of values. -/
def readList (read : Reader α) : Reader (List α)
  | d, .sequence items => items.mapM (read d)
  | _, t => .error (.wrongType t.found "a sequence")

/-- Reads a media type. -/
def readMediaType : Reader MediaType := fun d t => do
  let s ← readText d t
  match MediaType.parse? s with
  | some m => .ok m
  | none => .error (.mediaType s)

/-- The log format of a name. -/
def logFormatOf (s : String) : Reading LogFormat :=
  match s with
  | "pretty" => .ok .pretty
  | "json" => .ok .json
  | _ => .error (.unknownVariant s ["pretty", "json"])

/-- Reads a log format: its name, or a table whose one key is its name. -/
def readLogFormat : Reader LogFormat
  | _, .text s => logFormatOf s
  | .json, .table [(s, t)] => do
    let f ← logFormatOf s
    match t with
    | .null => .ok f
    | t => .error (.wrongType t.found "unit")
  | .json, .table _ => .error (.wrongValue .table "map with a single key")
  | .json, t => .error (.wrongType t.found "string or map")
  | .toml, .table [(s, t)] => do
    let f ← logFormatOf s
    match t with
    | .table [] => .ok f
    | .sequence [] => .ok f
    | _ => .error .notAChoice
  | .toml, _ => .error .notAChoice

/-! ## §2 Records -/

/-- A field of a record: its name, and how a tree sets it. -/
structure Member (σ : Type) where
  name : String
  set : Dialect → Tree → σ → Reading σ

/-- A member that is read by `read` and stored by `put`. -/
def member (name : String) (read : Reader α) (put : σ → α → σ) : Member σ :=
  ⟨name, fun d t s => put s <$> read d t⟩

/-- Sets members from the entries of a table, in the table's order. -/
def readEntries (members : List (Member σ)) (d : Dialect) (s : σ) :
    List (String × Tree) → Reading σ
  | [] => .ok s
  | (key, t) :: rest => do
    match members.find? (·.name == key) with
    | some m => readEntries members d (← m.set d t s) rest
    | none => readEntries members d s rest

/-- Sets members from a sequence of their values. -/
def readPositions (d : Dialect) : List (Member σ) → List Tree → σ → Reading σ
  | m :: ms, t :: ts, s => do readPositions d ms ts (← m.set d t s)
  | _, _, s => .ok s

/-- Reads a record, starting from its defaults. -/
def readRecord (name : String) (members : List (Member σ)) (start : σ) : Reader σ
  | d, .table entries => readEntries members d start entries
  | _, .moment => .ok start
  | d, .sequence items => do
    let s ← readPositions d members items start
    if d = .json ∧ members.length < items.length then
      .error (.wrongLength items.length "fewer elements in array")
    else .ok s
  | _, t => .error (.wrongType t.found ("struct " ++ name))

/-! ## §3 Sections -/

/-- Reads where the relay listens. -/
def Listener.read : Reader Listener :=
  readRecord "ListenerConfig" [
    member "bind_address" readText fun (s : Listener) v => { s with bindAddress := v },
    member "unix_socket" (readOption readText) fun s v => { s with unixSocket := v },
    member "max_inflight" readSize fun s v => { s with maxInflight := v }] {}

/-- Reads how requests name their gateway. -/
def Routing.read : Reader Routing :=
  readRecord "RoutingConfig" [
    member "path_prefix" readText fun (s : Routing) v => { s with pathPrefix := v },
    member "selector_header" readText fun s v => { s with selectorHeader := v },
    member "default_gateway" (readOption readText) fun s v => { s with defaultGateway := v }] {}

/-- Reads the size limits. -/
def Limits.read : Reader Limits :=
  readRecord "LimitsConfig" [
    member "max_body_size" readSize fun (s : Limits) v => { s with maxBodySize := v },
    member "max_response_size" readSize fun s v => { s with maxResponseSize := v }] {}

/-- Reads the time limits. -/
def Timeouts.read : Reader Timeouts :=
  readRecord "TimeoutConfig" [
    member "connect_ms" readMillis fun (s : Timeouts) v => { s with connectMs := v },
    member "request_ms" readMillis fun s v => { s with requestMs := v },
    member "queue_wait_ms" readMillis fun s v => { s with queueWaitMs := v },
    member "idle_ms" readMillis fun s v => { s with idleMs := v }] {}

/-- Reads the repetition of connection attempts. -/
def Retries.read : Reader Retries :=
  readRecord "RetryConfig" [
    member "connect_attempts" readCount fun (s : Retries) v => { s with connectAttempts := v },
    member "base_delay_ms" readMillis fun s v => { s with baseDelayMs := v },
    member "max_delay_ms" readMillis fun s v => { s with maxDelayMs := v }] {}

/-- Reads the settings of logs and metrics. -/
def Observability.read : Reader Observability :=
  readRecord "ObservabilityConfig" [
    member "log_level" readText fun (s : Observability) v => { s with logLevel := v },
    member "log_format" readLogFormat fun s v => { s with logFormat := v },
    member "metrics_enabled" readBool fun s v => { s with metricsEnabled := v },
    member "metrics_address" readText fun s v => { s with metricsAddress := v }] {}

/-- A gateway whose name and endpoint may not have been read yet. -/
structure Gateway.Draft where
  name : Option String := none
  endpoint : Option String := none
  acceptedMediaTypes : List MediaType := [.request]
  maxBodySize : Option UInt64 := none
  poolSize : UInt64 := 16
  requestTimeoutMs : Option UInt64 := none
  queueWaitMs : Option UInt64 := none

/-- The members of a gateway, in schema order. -/
def Gateway.members : List (Member Gateway.Draft) := [
  member "name" readText fun (s : Gateway.Draft) v => { s with name := some v },
  member "endpoint" readText fun s v => { s with endpoint := some v },
  member "accepted_media_types" (readList readMediaType) fun s v =>
    { s with acceptedMediaTypes := v },
  member "max_body_size" (readOption readSize) fun s v => { s with maxBodySize := v },
  member "pool_size" readSize fun s v => { s with poolSize := v },
  member "request_timeout_ms" (readOption readMillis) fun s v => { s with requestTimeoutMs := v },
  member "queue_wait_ms" (readOption readMillis) fun s v => { s with queueWaitMs := v }]

/-- The fault of a required field that was not given: its name, or the length of a sequence that
ends before it. -/
def Gateway.missing (name : String) : Tree → Fault
  | .sequence items => .wrongLength items.length "struct GatewayConfig with 7 elements"
  | _ => .missingField name

/-- Reads a gateway. -/
def Gateway.read : Reader Gateway := fun d t => do
  let s ← readRecord "GatewayConfig" Gateway.members {} d t
  match s.name, s.endpoint with
  | none, _ => .error (Gateway.missing "name" t)
  | _, none => .error (Gateway.missing "endpoint" t)
  | some name, some endpoint =>
    .ok { name, endpoint, acceptedMediaTypes := s.acceptedMediaTypes, maxBodySize := s.maxBodySize,
          poolSize := s.poolSize, requestTimeoutMs := s.requestTimeoutMs,
          queueWaitMs := s.queueWaitMs }

/-- The sections of a configuration. -/
def members : List (Member Config) := [
  member "listener" Listener.read fun (s : Config) v => { s with listener := v },
  member "routing" Routing.read fun s v => { s with routing := v },
  member "limits" Limits.read fun s v => { s with limits := v },
  member "timeouts" Timeouts.read fun s v => { s with timeouts := v },
  member "retries" Retries.read fun s v => { s with retries := v },
  member "observability" Observability.read fun s v => { s with observability := v },
  member "gateways" (readList Gateway.read) fun s v => { s with gateways := v }]

/-- Reads a whole configuration. -/
def ofTree : Reader Config := readRecord "RelayConfig" members {}

end ObliviousRelay.Config
