/-!
# Log entries

One event of the log: how serious it is, what happened, and named texts that tell more. No entry
carries a payload or anything about a client.
-/

namespace ObliviousRelay.Log

/-- How serious an event is. -/
inductive Level where
  | debug
  | info
  | warn
  | error
  deriving DecidableEq, Repr

/-- The written name of a level. -/
def Level.text : Level → String
  | debug => "DEBUG"
  | info => "INFO"
  | warn => "WARN"
  | error => "ERROR"

/-- One event. -/
structure Entry where
  level : Level
  message : String
  fields : List (String × String) := []
  deriving DecidableEq, Repr

namespace Entry

/-- No slot became free within the wait. -/
def poolExhausted (gateway : String) : Entry :=
  ⟨.debug, "Gateway pool exhausted", [("gateway", gateway)]⟩

/-- A connection was made. -/
def connected (gateway : String) : Entry :=
  ⟨.debug, "Gateway connection established", [("gateway", gateway)]⟩

/-- An attempt to connect failed, and another one follows. -/
def retrying (gateway : String) (attempt : Nat) (error : String) : Entry :=
  ⟨.debug, "Retrying gateway connect",
    [("attempt", toString attempt), ("error", error), ("gateway", gateway)]⟩

/-- The last attempt to connect failed. -/
def unreachable (gateway : String) (attempts : Nat) (error : String) : Entry :=
  ⟨.warn, "Gateway unreachable",
    [("attempts", toString attempts), ("error", error), ("gateway", gateway)]⟩

/-- A pooled connection turned out to be closed before anything was sent on it. -/
def stale (error : String) : Entry :=
  ⟨.debug, "Pooled gateway connection went stale", [("error", error)]⟩

/-- A connection gave a message back unsent. -/
def closedBeforeSend (error : String) : Entry :=
  ⟨.debug, "Gateway closed pooled connection before send", [("error", error)]⟩

/-- A gateway was left out of the registry. -/
def invalidEndpoint (gateway error : String) : Entry :=
  ⟨.warn, "Invalid gateway endpoint", [("error", error), ("gateway", gateway)]⟩

/-- The registry is empty. -/
def noGateways : Entry :=
  ⟨.warn, "No gateways configured; every relay request will be rejected", []⟩

/-- A root certificate could not be read. -/
def skippedRoot : Entry :=
  ⟨.debug, "Skipping invalid native certificate", [("error", "invalid peer certificate: BadEncoding")]⟩

/-- The number of root certificates that could be read. -/
def loadedRoots (count : Nat) : Entry :=
  ⟨.debug, "Loaded root certificates", [("roots", toString count)]⟩

/-- A gateway is served. -/
def registered (gateway : String) (poolSize requestTimeout : Nat) : Entry :=
  ⟨.info, "Gateway registered", [("gateway", gateway), ("pool_size", toString poolSize),
    ("request_timeout_ms", toString requestTimeout)]⟩

/-- The listener is bound. -/
def bound (address : String) : Entry := ⟨.info, "Listener bound", [("address", address)]⟩

/-- The server starts. -/
def starting (address : String) : Entry := ⟨.info, "HTTP server starting", [("address", address)]⟩

/-- The system asks the program to end. -/
def terminated : Entry := ⟨.info, "Termination signal received", []⟩

/-- The program cannot be told when the system asks it to end. -/
def unwatched (error : String) : Entry :=
  ⟨.error, "Failed to install signal handlers", [("error", error)]⟩

/-- The signal to stop has come. -/
def stopping : Entry := ⟨.info, "Shutdown signal received", []⟩

/-- The server has ended. -/
def stopped : Entry := ⟨.info, "HTTP server stopped", []⟩

end Entry

end ObliviousRelay.Log
