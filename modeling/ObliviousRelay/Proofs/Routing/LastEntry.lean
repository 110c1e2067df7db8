import Mathlib.Data.Finset.Card
import ObliviousRelay.Proofs.Routing.Registry

/-!
# The last entry counts

A configuration may list a name several times and endpoints that are no URLs, for a registry is built
without its rules. Of the gateways of one name the last one with a readable endpoint counts, with all
of its settings, and the others leave no trace.

- `Config.LastOf`: the gateway that counts for a name.
- `Registry.find?_eq_findSome?`: a registry is searched from the end of the configuration.
- `Registry.ofConfig_skip`: an endpoint that cannot be read makes no difference to the registry.
- `Registry.last_entry_counts`: all of it, for every configuration.
-/

namespace ObliviousRelay

/-! ## Entries -/

/-- Whether the endpoint of a gateway is a URL. -/
def Config.Gateway.isReadable (g : Config.Gateway) : Bool := (Url.parse g.endpoint).isOk

/-- The gateway that counts for a name: its endpoint can be read, and that of no later gateway of the
name can. -/
def Config.LastOf (config : Config) (name : String) (g : Config.Gateway) : Prop :=
  ∃ before after, config.gateways = before ++ g :: after ∧ g.name = name ∧ g.isReadable = true ∧
    ∀ later ∈ after, later.name = name → later.isReadable = false

/-- A target that has everything from one gateway, and the global settings only where this gateway
sets nothing. -/
structure Target.Carries (t : Target) (config : Config) (g : Config.Gateway) : Prop where
  name : t.name = g.name
  endpoint : Url.parse g.endpoint = .ok t.endpoint
  acceptedMediaTypes : t.acceptedMediaTypes = g.acceptedMediaTypes
  maxBodySize : t.maxBodySize = (g.maxBodySize.getD config.limits.maxBodySize).toNat
  poolSize : t.poolSize = g.poolSize.toNat
  requestTimeout : t.requestTimeout = (g.requestTimeoutMs.getD config.timeouts.requestMs).toNat
  queueWait : t.queueWait = (g.queueWaitMs.getD config.timeouts.queueWaitMs).toNat

/-- What a gateway offers to those who ask for a name. -/
def Config.Gateway.offer? (config : Config) (name : String) (g : Config.Gateway) : Option Target :=
  if g.name = name then (Target.ofGateway config g).toOption else none

namespace Target

variable {config : Config} {g : Config.Gateway} {t : Target} {name : String}

theorem ofGateway_eq_ok_iff : ofGateway config g = .ok t ↔ t.Carries config g := by
  constructor
  · intro h
    obtain ⟨endpoint, hendpoint, rfl⟩ := eq_of_ofGateway h
    exact ⟨rfl, hendpoint, rfl, rfl, rfl, rfl, rfl⟩
  · intro h
    rw [ofGateway, h.endpoint]
    cases t
    simp only [Except.map, Except.ok.injEq, mk.injEq]
    exact ⟨h.name.symm, trivial, h.acceptedMediaTypes.symm, h.maxBodySize.symm, h.poolSize.symm,
      h.requestTimeout.symm, h.queueWait.symm⟩

theorem isReadable_iff (config : Config) :
    g.isReadable = true ↔ ∃ t, ofGateway config g = .ok t := by
  unfold Config.Gateway.isReadable ofGateway
  cases Url.parse g.endpoint <;> simp [Except.isOk, Except.toBool, Except.map]

theorem ofGateway_of_unreadable (config : Config) (h : g.isReadable = false) :
    ∃ fault, ofGateway config g = .error fault := by
  cases hresolved : ofGateway config g with
  | error fault => exact ⟨fault, rfl⟩
  | ok t =>
    rw [(isReadable_iff config).mpr ⟨t, hresolved⟩] at h
    cases h

theorem offer?_eq_some_iff :
    g.offer? config name = some t ↔ g.name = name ∧ ofGateway config g = .ok t := by
  unfold Config.Gateway.offer?
  cases ofGateway config g <;> simp [Except.toOption]

theorem offer?_eq_none_iff :
    g.offer? config name = none ↔ (g.name = name → g.isReadable = false) := by
  rw [Option.eq_none_iff_forall_ne_some, ← Bool.not_eq_true, isReadable_iff config]
  simp only [Ne, offer?_eq_some_iff, not_and, not_exists]
  exact forall_comm

end Target

namespace Registry

variable {config : Config} {ts : List Target} {t : Target} {name : String}

/-! ## Search after insertion -/

/-- Who is inserted is found under its name, and all others as before. -/
theorem find?_insert (ts : List Target) (t : Target) (name : String) :
    (insert ts t).find? (·.name = name) =
      if t.name = name then some t else ts.find? (·.name = name) := by
  induction ts with
  | nil => by_cases h : t.name = name <;> simp [insert, h]
  | cons u rest ih =>
    rw [insert]
    by_cases hplace : u.name = t.name
    · -- The new target stands where the old one of its name stood.
      by_cases h : t.name = name <;> simp [hplace, h]
    · -- The search ends with the target at this place, or goes on behind it.
      by_cases hu : u.name = name
      · have h : t.name ≠ name := fun h => hplace (hu.trans h.symm)
        rw [if_neg hplace, if_neg h, List.find?_cons_of_pos (by simp [hu]),
          List.find?_cons_of_pos (by simp [hu])]
      · simp [hplace, hu, ih]

/-- **A registry is searched from the end of its configuration.** -/
theorem find?_eq_findSome? (config : Config) (name : String) : (ofConfig config).find? name =
    config.gateways.reverse.findSome? (·.offer? config name) := by
  unfold find? ofConfig
  -- Each further gateway comes before all gateways so far.
  induction config.gateways using List.reverseRecOn with
  | nil => rfl
  | append_singleton gs g ih =>
    rw [List.foldl_append, List.foldl_cons, List.foldl_nil, List.reverse_append,
      List.reverse_singleton, List.singleton_append, List.findSome?_cons]
    cases hg : Target.ofGateway config g with
    | error fault => simpa [Config.Gateway.offer?, hg, Except.toOption] using ih
    | ok t =>
      have hname := Target.name_of_ofGateway hg
      by_cases h : g.name = name
      · simp [Config.Gateway.offer?, hg, Except.toOption, find?_insert, hname, h]
      · simpa [Config.Gateway.offer?, hg, Except.toOption, find?_insert, hname, h] using ih

/-! ## Names -/

theorem find?_eq_some_iff : (ofConfig config).find? name = some t ↔
    ∃ g, config.LastOf name g ∧ t.Carries config g := by
  rw [find?_eq_findSome?, List.findSome?_eq_some_iff]
  constructor
  · -- The first to offer a target, seen from the end, is the last entry that counts.
    rintro ⟨after, g, before, hsplit, hg, hlater⟩
    obtain ⟨hname, ht⟩ := Target.offer?_eq_some_iff.mp hg
    refine ⟨g, ⟨before.reverse, after.reverse, ?_, hname, (Target.isReadable_iff config).mpr ⟨t, ht⟩,
      fun later hmem => Target.offer?_eq_none_iff.mp (hlater later (List.mem_reverse.mp hmem))⟩,
      Target.ofGateway_eq_ok_iff.mp ht⟩
    simpa using congrArg List.reverse hsplit
  · rintro ⟨g, ⟨before, after, hsplit, hname, -, hlater⟩, ht⟩
    refine ⟨after.reverse, g, before.reverse, by simp [hsplit],
      Target.offer?_eq_some_iff.mpr ⟨hname, Target.ofGateway_eq_ok_iff.mpr ht⟩, fun later hmem => ?_⟩
    exact Target.offer?_eq_none_iff.mpr (hlater later (List.mem_reverse.mp hmem))

theorem find?_eq_none_iff : (ofConfig config).find? name = none ↔
    ∀ g ∈ config.gateways, g.name = name → g.isReadable = false := by
  rw [find?_eq_findSome?, List.findSome?_eq_none_iff]
  simp [Target.offer?_eq_none_iff]

theorem resolve_eq_ok_iff {selector : Selector} : (ofConfig config).resolve selector = .ok t ↔
    ∃ name, (ofConfig config).nameOf? selector = some name ∧
      (ofConfig config).find? name = some t := by
  unfold resolve
  cases hname : (ofConfig config).nameOf? selector with
  | none => simp
  | some name =>
    simp only [Option.bind_some, Option.some.injEq, exists_eq_left']
    cases (ofConfig config).find? name <;> simp

theorem resolve_named_eq_error_iff : (ofConfig config).resolve (.named name) = .error .unknownGateway ↔
    (ofConfig config).find? name = none := by
  simp only [resolve, nameOf?, Option.bind_some]
  cases (ofConfig config).find? name <;> simp

/-- The names of a registry are those of the gateways whose endpoints can be read. -/
theorem mem_names_iff : name ∈ (ofConfig config).targets.map (·.name) ↔
    name ∈ (config.gateways.filter (·.isReadable)).map (·.name) := by
  have hfound : name ∈ (ofConfig config).targets.map (·.name) ↔
      (ofConfig config).find? name ≠ none := by
    rw [Ne, find?, List.find?_eq_none]
    simp
  rw [hfound, Ne, find?_eq_none_iff]
  simp [and_comm, and_left_comm]

/-- **The size of a registry is the number of names that can be resolved.** -/
theorem size_ofConfig (config : Config) : (ofConfig config).size =
    ((config.gateways.filter (·.isReadable)).map (·.name)).toFinset.card := by
  have hnames : ((ofConfig config).targets.map (·.name)).toFinset =
      ((config.gateways.filter (·.isReadable)).map (·.name)).toFinset := by
    ext name
    rw [List.mem_toFinset, List.mem_toFinset, mem_names_iff]
  rw [← hnames, List.toFinset_card_of_nodup (nodup_names config), List.length_map, size]

/-- **An endpoint that cannot be read makes no difference.** -/
theorem ofConfig_skip {before after : List Config.Gateway} {g : Config.Gateway}
    (hsplit : config.gateways = before ++ g :: after) (hg : g.isReadable = false) :
    ofConfig config = ofConfig { config with gateways := before ++ after } := by
  obtain ⟨fault, hfault⟩ := Target.ofGateway_of_unreadable config hg
  unfold ofConfig
  rw [hsplit, List.foldl_append, List.foldl_cons, hfault, List.foldl_append]
  rfl

/-! ## The law of the registry -/

/-- **Of the gateways of one name the last readable one counts.** For every configuration, whether or
not it meets its rules:

- A name is resolved to the target that carries everything of the gateway that counts for it, and is
  unknown just when no endpoint of its gateways can be read.
- A gateway whose endpoint cannot be read might as well not be there.
- A request without a name is resolved as one that names the default gateway, and is refused where
  there is no default.
- The registry has as many targets as there are names with a readable endpoint.
- Whatever is resolved bears the name that was asked for, and has all its settings from the gateway
  that counts for it. -/
theorem last_entry_counts (config : Config) :
    let registry := ofConfig config
    (∀ name t, registry.resolve (.named name) = .ok t ↔
      ∃ g, config.LastOf name g ∧ t.Carries config g) ∧
    (∀ name, registry.resolve (.named name) = .error .unknownGateway ↔
      ∀ g ∈ config.gateways, g.name = name → g.isReadable = false) ∧
    (∀ before g after, config.gateways = before ++ g :: after → g.isReadable = false →
      registry = ofConfig { config with gateways := before ++ after }) ∧
    (∀ name, config.routing.defaultGateway = some name →
      registry.resolve .unnamed = registry.resolve (.named name)) ∧
    (config.routing.defaultGateway = none →
      registry.resolve .unnamed = .error .unknownGateway) ∧
    registry.size = ((config.gateways.filter (·.isReadable)).map (·.name)).toFinset.card ∧
    ∀ selector t, registry.resolve selector = .ok t →
      registry.nameOf? selector = some t.name ∧
        ∃ g, config.LastOf t.name g ∧ t.Carries config g := by
  intro registry
  refine ⟨fun name t => ?_, fun name => resolve_named_eq_error_iff.trans find?_eq_none_iff,
    fun before g after hsplit hg => ofConfig_skip hsplit hg, fun name hdefault => ?_,
    fun hdefault => ?_, size_ofConfig config, fun selector t ht => ?_⟩
  · -- A name resolves as the last of its entries does.
    rw [resolve_eq_ok_iff, ← find?_eq_some_iff]
    simp [nameOf?]
  · -- Without a selector the default's name is looked for.
    have hname : registry.nameOf? .unnamed = some name := hdefault
    rw [resolve, resolve, hname]
    rfl
  -- Nor is there anything to look for without a default.
  · have hname : registry.nameOf? .unnamed = none := hdefault
    rw [resolve, hname]
    rfl
  · obtain ⟨name, hname, hfind⟩ := resolve_eq_ok_iff.mp ht
    obtain ⟨g, hlast, hcarries⟩ := find?_eq_some_iff.mp hfind
    -- The gateway that counts for a name bears it, and hands it on to its target.
    obtain ⟨before, after, -, rfl, -⟩ := id hlast
    exact ⟨hcarries.name ▸ hname, g, hcarries.name ▸ hlast, hcarries⟩

/-- Three gateways of one name, the last of them without a readable endpoint, and one that has none
either. -/
def repeatedConfig : Config where
  routing := { defaultGateway := some "twice" }
  gateways := [
    { name := "twice", endpoint := "http://[::1]", poolSize := 1 },
    { name := "never", endpoint := "nowhere" },
    { name := "twice", endpoint := "http://[::2]/", requestTimeoutMs := some 5 },
    { name := "twice", endpoint := "http://[", poolSize := 3 }]

/-- Here the second of the three counts, for the name and for requests without one; nothing is mixed
in from the others, and there is one target in all. -/
theorem last_entry_counts_repeated :
    let registry := ofConfig repeatedConfig
    (∃ t, registry.resolve .unnamed = .ok t ∧ registry.resolve (.named "twice") = .ok t ∧
      t.poolSize = 16 ∧ t.requestTimeout = 5 ∧ t.maxBodySize = 65536) ∧
    registry.resolve (.named "never") = .error .unknownGateway ∧ registry.size = 1 ∧
    registry = ofConfig { repeatedConfig with gateways := repeatedConfig.gateways.take 3 } := by
  intro registry
  obtain ⟨hnamed, hunknown, hskip, hdefault, -, hsize, hcarries⟩ := last_entry_counts repeatedConfig
  have hsame : registry.resolve .unnamed = registry.resolve (.named "twice") :=
    hdefault "twice" rfl
  refine ⟨?_, (hunknown "never").mpr (by decide +kernel), hsize.trans (by decide +kernel),
    hskip (repeatedConfig.gateways.take 3) _ [] rfl (by decide +kernel)⟩
  obtain ⟨t, ht⟩ : ∃ t, Target.ofGateway repeatedConfig repeatedConfig.gateways[2] = .ok t :=
    (Target.isReadable_iff repeatedConfig).mp (by decide +kernel)
  have hlast : repeatedConfig.LastOf "twice" repeatedConfig.gateways[2] :=
    ⟨repeatedConfig.gateways.take 2, repeatedConfig.gateways.drop 3, rfl, rfl, by decide +kernel,
      by decide +kernel⟩
  have hresolved := (hnamed "twice" t).mpr ⟨_, hlast, Target.ofGateway_eq_ok_iff.mp ht⟩
  have hsettings := Target.ofGateway_eq_ok_iff.mp ht
  exact ⟨t, hsame.trans hresolved, hresolved, hsettings.poolSize, hsettings.requestTimeout,
    hsettings.maxBodySize⟩

end Registry

end ObliviousRelay
