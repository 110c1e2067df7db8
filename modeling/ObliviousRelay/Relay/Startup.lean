import ObliviousRelay.Gateway.Trust
import ObliviousRelay.Net.Listener
import ObliviousRelay.Relay.Basic

/-!
# Starting a relay

A relay is built from a configuration: the registry, TLS where some gateway needs it, a pool for
each gateway, the routes and the limit of running visits. Not every configuration can be built.

- `Relay.build` builds a relay, `Relay.buildEntries` is what it logs.
- The first fault decides, in the order in which the parts are built.
- Memory for the pools is taken for granted, as far as the address space reaches.
-/

namespace ObliviousRelay

/-- Why a relay cannot be built or started. -/
inductive StartupFault where
  | tls (fault : Gateway.TlsFault)
  /-- A pool has no room in the address space. -/
  | pool
  /-- The route cannot be served. -/
  | route
  /-- More running visits are allowed than can be counted. -/
  | inflight
  | listener (fault : Net.ListenerFault)
  deriving DecidableEq, Repr

/-- The wording of a fault. -/
def StartupFault.message : StartupFault → String
  | tls fault => "gateway TLS setup failed: " ++ fault.message
  | pool => "pool too large"
  | route => "route not served"
  | inflight => "limit too large"
  | listener fault => "listener setup failed: " ++ fault.message

namespace Relay

/-- The most visits that can be allowed to run at a time. -/
def maxCountable : Nat := Nat.pow 2 61 - 1

/-- The header that selects a gateway, where the configured one is no field name. -/
def fallbackHeader : Http.FieldName := ⟨"ohttp-gateway"⟩

/-- Whether some target needs TLS. -/
def needsTls (registry : Registry) : Bool := registry.targets.any (·.isSecure)

/-- Builds a relay, with the root certificates that the system offers. -/
def build (c : Config) (certificates : List Gateway.Certificate) : Except StartupFault Relay :=
  let engine := Engine.ofConfig c
  let registry := engine.registry
  let trust := if needsTls registry then (Gateway.Trust.ofCertificates certificates).map (fun _ => ())
    else .ok ()
  match trust with
  | .error fault => .error (.tls fault)
  | .ok () =>
    if registry.targets.any fun t => !Gateway.Pool.canHold t.poolSize then .error .pool
    else match Http.Routes.ofRoute? c.routing.pathPrefix with
      | none => .error .route
      | some routes =>
        if maxCountable < c.listener.maxInflight.toNat then .error .inflight
        else .ok {
          engine, routes
          route := {
            pathPrefix := c.routing.pathPrefix
            selectorHeader := (Http.FieldName.ofText? c.routing.selectorHeader).getD fallbackHeader
            maxBodySize := c.limits.maxBodySize.toNat }
          maxInflight := c.listener.maxInflight.toNat
          inboundTimeout := inboundTimeoutOf registry c.timeouts.requestMs.toNat
          client := .ofRegistry registry (.ofConfig c) }

/-- What is logged while a relay is built. -/
def buildEntries (c : Config) (certificates : List Gateway.Certificate) : List Log.Entry :=
  let registry := Registry.ofConfig c
  (Registry.skipped c).map (fun (name, fault) => Log.Entry.invalidEndpoint name fault.message) ++
    (if registry.targets.isEmpty then [.noGateways] else []) ++
    (if needsTls registry then Gateway.Trust.entries certificates else []) ++
    registry.targets.map fun t => .registered t.name t.poolSize t.requestTimeout

end Relay

end ObliviousRelay
