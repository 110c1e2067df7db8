import ObliviousRelay.Proofs.Config.Accepted
import ObliviousRelay.Proofs.Gateway.Isolation
import ObliviousRelay.Proofs.Relay.Gauges

/-!
# Relays of loaded configurations

Rules, registry, pools and server each take their part of a configuration. Once a configuration was
loaded they fit together: every gateway has its target, every target its station, and no default of
the server takes the place of something that was configured.

- `Config.Accepted.targets` and `Config.Accepted.usable`: the targets of an accepted configuration.
- `stationFor_history`: whoever can be resolved has a station, at all times.
- `loaded_config_serves`: all of it, for every text and environment.
-/

namespace ObliviousRelay

open Gateway (Client ClientOccurrence)

/-- A target that exchanges can be made with: none of its bounds is zero, and its endpoint can be
dialled. -/
structure Target.Usable (t : Target) : Prop where
  poolSize : 0 < t.poolSize
  maxBodySize : 0 < t.maxBodySize
  requestTimeout : 0 < t.requestTimeout
  queueWait : 0 < t.queueWait
  scheme : t.endpoint.scheme = "http" ∨ t.endpoint.scheme = "https"
  host : t.endpoint.host?.isSome = true

namespace Config.Accepted

variable {c : Config} {t : Target} {name : String}

/-! ## The targets of an accepted configuration -/

/-- **Every gateway has one target**, in the order of the gateways. -/
theorem targets (h : Accepted c) :
    c.gateways.map (Target.ofGateway c) = (Registry.ofConfig c).targets.map .ok := by
  apply Registry.targets_of_resolved h.names
  intro g hg
  obtain ⟨url, hurl, -⟩ := (h.sound g hg).endpoint
  rw [Target.ofGateway, hurl]
  exact ⟨_, rfl⟩

theorem mem_targets (h : Accepted c) : t ∈ (Registry.ofConfig c).targets ↔
    ∃ g ∈ c.gateways, Target.ofGateway c g = .ok t := by
  have hmem : t ∈ (Registry.ofConfig c).targets ↔
      Except.ok t ∈ c.gateways.map (Target.ofGateway c) := by
    rw [h.targets]
    simp
  rw [hmem, List.mem_map]

/-- An override that is no zero, or else a global setting that is none. -/
theorem getD_pos {override : Option UInt64} {setting : UInt64} (hoverride : override ≠ some 0)
    (hsetting : setting ≠ 0) : 0 < (override.getD setting).toNat := by
  apply Nat.pos_of_ne_zero
  intro hzero
  have heq : override.getD setting = 0 := UInt64.toNat_inj.mp hzero
  cases override with
  | none => exact hsetting heq
  | some n => exact hoverride (congrArg some heq)

/-- **Every target is usable.** -/
theorem usable (h : Accepted c) (ht : t ∈ (Registry.ofConfig c).targets) : t.Usable := by
  obtain ⟨g, hg, hresolved⟩ := h.mem_targets.mp ht
  obtain ⟨endpoint, hendpoint, rfl⟩ := Target.eq_of_ofGateway hresolved
  have hsound := h.sound g hg
  obtain ⟨url, hurl, hscheme, hhost⟩ := hsound.endpoint
  obtain rfl := Except.ok.inj (hendpoint.symm.trans hurl)
  constructor
  · exact Nat.pos_of_ne_zero fun hzero => hsound.poolSize (UInt64.toNat_inj.mp hzero)
  · exact getD_pos hsound.maxBodySize h.maxBodySize
  · exact getD_pos hsound.requestTimeout h.requestTimeout
  · exact getD_pos hsound.queueWait h.queueWait
  · exact hscheme
  · exact hhost

/-! ## Who is resolved -/

theorem resolve_named (h : Accepted c) :
    (Registry.ofConfig c).resolve (.named name) = .ok t ↔
      ∃ g ∈ c.gateways, g.name = name ∧ Target.ofGateway c g = .ok t := by
  rw [Registry.resolve_iff, h.mem_targets]
  constructor
  · rintro ⟨⟨g, hg, ht⟩, hname⟩
    have heq : name = t.name := Option.some.inj hname
    exact ⟨g, hg, (Target.name_of_ofGateway ht).symm.trans heq.symm, ht⟩
  · rintro ⟨g, hg, rfl, ht⟩
    exact ⟨⟨g, hg, ht⟩, congrArg some (Target.name_of_ofGateway ht).symm⟩

theorem resolve_unnamed (h : Accepted c) :
    (Registry.ofConfig c).resolve .unnamed = .ok t ↔
      ∃ g ∈ c.gateways, c.routing.defaultGateway = some g.name ∧ Target.ofGateway c g = .ok t := by
  rw [Registry.resolve_iff, h.mem_targets]
  constructor
  · rintro ⟨⟨g, hg, ht⟩, hname⟩
    rw [Target.name_of_ofGateway ht] at hname
    exact ⟨g, hg, hname, ht⟩
  · rintro ⟨g, hg, hname, ht⟩
    refine ⟨⟨g, hg, ht⟩, ?_⟩
    rw [Target.name_of_ofGateway ht]
    exact hname

/-- A gateway of an accepted configuration has a target. -/
theorem exists_target (h : Accepted c) {g : Gateway} (hg : g ∈ c.gateways) :
    ∃ t, Target.ofGateway c g = .ok t := by
  have hmem : Target.ofGateway c g ∈ (Registry.ofConfig c).targets.map .ok := by
    rw [← h.targets]
    exact List.mem_map_of_mem hg
  obtain ⟨t, -, ht⟩ := List.mem_map.mp hmem
  exact ⟨t, ht.symm⟩

end Config.Accepted

/-! ## Who is served -/

/-- Whoever can be resolved has a station, whatever happened to the client. -/
theorem Gateway.Client.stationFor_history {c : Config} {selector : Selector} {t : Target}
    (ht : (Registry.ofConfig c).resolve selector = .ok t) (os : List ClientOccurrence) :
    ∃ s, ((ofConfig c).history os).1.stationFor t = .ok s ∧ s.target = t := by
  have hfirst : (ofConfig c).station? t.name = some (.ofTarget t (.ofConfig c)) := by
    rw [ofConfig, station?_ofRegistry, Registry.find?_of_mem (Registry.resolve_iff.mp ht).1]
    rfl
  obtain ⟨hstation, -⟩ := station?_history hfirst os
  have htarget := (Station.history_target (.ofTarget t (.ofConfig c)) (partOf t.name os)).1
  refine ⟨_, ?_, htarget⟩
  rw [stationFor, hstation]

namespace Relay

/-- The same of a relay: the target that it resolves has a station. -/
theorem stationFor_history {c : Config} {certificates : List Gateway.Certificate} {r : Relay}
    (hbuild : build c certificates = .ok r) (os : List RelayOccurrence) {selector : Selector}
    {t : Target} (ht : (r.history os).1.engine.registry.resolve selector = .ok t) :
    ∃ s, (r.history os).1.client.stationFor t = .ok s ∧ s.target = t := by
  obtain ⟨-, -, hclient, -⟩ := parts_of_build hbuild
  rw [engine_of_build hbuild] at ht
  -- A relay's stations live through what its client lives through.
  obtain ⟨cos, hdrives, -⟩ := r.history_drives os
  rw [hdrives.client, hclient]
  exact Client.stationFor_history ht cos

/-- **A loaded configuration is served as it was written.** From any text and any environment, or
built in:

- The registry has one target for each gateway. A name is resolved just when a gateway bears it, and
  no name just when there is a default gateway, each to the target of that gateway.
- Every target is usable.
- The header that selects a gateway is the configured one.
- Whoever is resolved has a station of its own, for leases at all times. -/
theorem loaded_config_serves {env : Config.Environment} {c : Config}
    (hload : (∃ text, Config.parse env text = .ok c) ∨ Config.builtIn env = .ok c) :
    let registry := Registry.ofConfig c
    (c.gateways.map (Target.ofGateway c) = registry.targets.map .ok ∧
      registry.size = c.gateways.length) ∧
    ((∀ name t, registry.resolve (.named name) = .ok t ↔
        ∃ g ∈ c.gateways, g.name = name ∧ Target.ofGateway c g = .ok t) ∧
      ∀ name, (∃ t, registry.resolve (.named name) = .ok t) ↔ ∃ g ∈ c.gateways, g.name = name) ∧
    ((∀ t, registry.resolve .unnamed = .ok t ↔ ∃ g ∈ c.gateways,
        c.routing.defaultGateway = some g.name ∧ Target.ofGateway c g = .ok t) ∧
      ((∃ t, registry.resolve .unnamed = .ok t) ↔ c.routing.defaultGateway.isSome = true)) ∧
    (∀ t ∈ registry.targets, t.Usable) ∧
    (∃ header, Http.FieldName.ofText? c.routing.selectorHeader = some header ∧
      ∀ certificates r, build c certificates = .ok r → r.route.selectorHeader = header) ∧
    (∀ selector t, registry.resolve selector = .ok t → ∀ os, ∃ s,
      ((Client.ofConfig c).history os).1.stationFor t = .ok s ∧ s.target = t) ∧
    (∀ certificates r os selector t, build c certificates = .ok r →
      (r.history os).1.engine.registry.resolve selector = .ok t →
      registry.resolve selector = .ok t ∧
        ∃ s, (r.history os).1.client.stationFor t = .ok s ∧ s.target = t) := by
  intro registry
  have haccepted : Config.Accepted c := by
    rcases hload with ⟨text, hparse⟩ | hbuiltIn
    · exact Config.accepted_of_parse hparse
    · exact Config.accepted_of_builtIn hbuiltIn
  refine ⟨⟨haccepted.targets, ?_⟩, ⟨fun name t => haccepted.resolve_named, fun name => ?_⟩,
    ⟨fun t => haccepted.resolve_unnamed, ?_⟩, fun t ht => haccepted.usable ht, ?_,
    fun selector t ht os => Client.stationFor_history ht os,
    fun certificates r os selector t hbuild ht => ⟨?_, stationFor_history hbuild os ht⟩⟩
  · have hlength := congrArg List.length haccepted.targets
    rw [List.length_map, List.length_map] at hlength
    exact hlength.symm
  · constructor
    · rintro ⟨t, ht⟩
      obtain ⟨g, hg, hname, -⟩ := haccepted.resolve_named.mp ht
      exact ⟨g, hg, hname⟩
    · rintro ⟨g, hg, hname⟩
      obtain ⟨t, ht⟩ := haccepted.exists_target hg
      exact ⟨t, haccepted.resolve_named.mpr ⟨g, hg, hname, ht⟩⟩
  · constructor
    · rintro ⟨t, ht⟩
      obtain ⟨g, -, hname, -⟩ := haccepted.resolve_unnamed.mp ht
      rw [hname]
      rfl
    · intro hsome
      obtain ⟨name, hname⟩ := Option.isSome_iff_exists.mp hsome
      -- The default gateway is one of the gateways, by a rule of its own.
      obtain ⟨g, hg, rfl⟩ := haccepted.default name hname
      obtain ⟨t, ht⟩ := haccepted.exists_target hg
      exact ⟨t, haccepted.resolve_unnamed.mpr ⟨g, hg, hname, ht⟩⟩
  · obtain ⟨header, hheader⟩ := haccepted.selectorHeader
    refine ⟨header, hheader, fun certificates r hbuild => ?_⟩
    obtain ⟨routes, -, rfl⟩ := eq_of_build hbuild
    show (Http.FieldName.ofText? c.routing.selectorHeader).getD fallbackHeader = header
    rw [hheader]
    rfl
  · rw [engine_of_build hbuild] at ht
    exact ht

/-- A document with one gateway, which is the default as well. -/
def sampleText : String :=
  "[routing]\ndefault_gateway = \"gateway\"\n" ++
    "[[gateways]]\nname = \"gateway\"\nendpoint = \"http://[::1]\"\n"

/-- With this document a request that names no gateway gets the one gateway's target, which is usable
and has a station. -/
theorem loaded_config_serves_default :
    Config.parse {} sampleText = .ok sampleConfig ∧
      ∃ t s, (Registry.ofConfig sampleConfig).resolve .unnamed = .ok t ∧ t.Usable ∧
        ((Client.ofConfig sampleConfig).history [.delay 10]).1.stationFor t = .ok s := by
  have hparse : Config.parse {} sampleText = .ok sampleConfig := by decide +kernel
  obtain ⟨-, -, ⟨-, hdefault⟩, husable, -, hstation, -⟩ :=
    loaded_config_serves (.inl ⟨sampleText, hparse⟩)
  obtain ⟨t, ht⟩ := hdefault.mpr rfl
  obtain ⟨s, hs, -⟩ := hstation .unnamed t ht [.delay 10]
  exact ⟨hparse, t, s, ht, husable t (Registry.resolve_iff.mp ht).1, hs⟩

end Relay

end ObliviousRelay
