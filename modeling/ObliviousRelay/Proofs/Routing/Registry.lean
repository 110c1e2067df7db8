import ObliviousRelay.Gateway.Client
import ObliviousRelay.Proofs.Lookup

/-!
# What a registry holds

Each target of a registry comes from a gateway of the configuration, and no name is taken twice, so
a target is found by its name. Where the gateways have distinct names and endpoints that are URLs,
nothing is left out or replaced.

- `exists_gateway_of_mem` and `nodup_names`: what holds of every registry.
- `targets_of_resolved`: the targets of a registry that leaves nothing out, one for each gateway.
- `resolve_iff`: what a selector that names a gateway, or none, is resolved to.
-/

namespace ObliviousRelay

/-- What a target takes from its gateway, and what from the global settings. -/
theorem Target.eq_of_ofGateway {config : Config} {g : Config.Gateway} {t : Target}
    (h : ofGateway config g = .ok t) : ∃ endpoint, Url.parse g.endpoint = .ok endpoint ∧ t = {
      name := g.name
      endpoint
      acceptedMediaTypes := g.acceptedMediaTypes
      maxBodySize := (g.maxBodySize.getD config.limits.maxBodySize).toNat
      poolSize := g.poolSize.toNat
      requestTimeout := (g.requestTimeoutMs.getD config.timeouts.requestMs).toNat
      queueWait := (g.queueWaitMs.getD config.timeouts.queueWaitMs).toNat } := by
  unfold ofGateway at h
  cases hurl : Url.parse g.endpoint with
  | error fault =>
    rw [hurl] at h
    cases h
  | ok endpoint =>
    rw [hurl] at h
    exact ⟨endpoint, rfl, (Except.ok.inj h).symm⟩

theorem Target.name_of_ofGateway {config : Config} {g : Config.Gateway} {t : Target}
    (h : ofGateway config g = .ok t) : t.name = g.name := by
  obtain ⟨endpoint, -, rfl⟩ := eq_of_ofGateway h
  rfl

namespace Registry

variable {config : Config} {ts : List Target} {t u : Target} {name : String}

/-! ## Insertion by name -/

theorem mem_insert (h : u ∈ insert ts t) : u = t ∨ u ∈ ts := by
  induction ts with
  | nil => exact .inl (List.mem_singleton.mp h)
  | cons v rest ih =>
    rw [insert] at h
    split at h
    · rcases List.mem_cons.mp h with rfl | hrest
      · exact .inl rfl
      · exact .inr (List.mem_cons_of_mem _ hrest)
    · rcases List.mem_cons.mp h with rfl | hrest
      · exact .inr List.mem_cons_self
      · exact (ih hrest).imp_right (List.mem_cons_of_mem _)

/-- A target whose name is new goes to the end. -/
theorem insert_of_fresh (h : t.name ∉ ts.map (·.name)) : insert ts t = ts ++ [t] := by
  induction ts with
  | nil => rfl
  | cons u rest ih =>
    rw [List.map_cons, List.mem_cons, not_or] at h
    rw [insert, if_neg (Ne.symm h.1), ih h.2, List.cons_append]

/-- A target whose name is taken goes in the place of the one that has it. -/
theorem names_insert_of_mem (h : t.name ∈ ts.map (·.name)) :
    (insert ts t).map (·.name) = ts.map (·.name) := by
  induction ts with
  | nil => cases h
  | cons u rest ih =>
    rw [insert]
    split
    · -- The target takes the place of the one with its name.
      next heq => rw [List.map_cons, List.map_cons, heq]
    · next hne =>
      rw [List.map_cons, List.mem_cons] at h
      rw [List.map_cons, List.map_cons, ih (h.resolve_left (Ne.symm hne))]

theorem nodup_insert (h : (ts.map (·.name)).Nodup) : ((insert ts t).map (·.name)).Nodup := by
  by_cases hmem : t.name ∈ ts.map (·.name)
  · rw [names_insert_of_mem hmem]
    exact h
  · rw [insert_of_fresh hmem, List.map_append, List.map_singleton]
    exact List.nodup_append.mpr ⟨h, List.nodup_singleton _, fun a ha b hb => by
      rintro rfl
      exact hmem (List.mem_singleton.mp hb ▸ ha)⟩

/-! ## Every registry -/

/-- What insertion keeps holds of the targets of a registry. -/
theorem targets_induction {P : List Target → Prop} (config : Config) (hnil : P [])
    (hinsert : ∀ ts g t, P ts → g ∈ config.gateways → Target.ofGateway config g = .ok t →
      P (insert ts t)) : P (ofConfig config).targets := by
  refine List.foldlRecOn config.gateways _ hnil fun ts h g hg => ?_
  split
  · next t ht => exact hinsert ts g t h hg ht
  · exact h

/-- **No name is taken twice.** -/
theorem nodup_names (config : Config) : ((ofConfig config).targets.map (·.name)).Nodup :=
  targets_induction (P := fun ts => (ts.map (·.name)).Nodup) config List.nodup_nil
    fun _ _ _ h _ _ => nodup_insert h

/-- **Every target comes from a gateway of the configuration.** -/
theorem exists_gateway_of_mem (h : t ∈ (ofConfig config).targets) :
    ∃ g ∈ config.gateways, Target.ofGateway config g = .ok t := by
  refine targets_induction (P := fun ts => ∀ t ∈ ts, ∃ g ∈ config.gateways,
    Target.ofGateway config g = .ok t) config (by simp) (fun ts g t hts hg ht u hu => ?_) t h
  rcases mem_insert hu with rfl | hu
  · exact ⟨g, hg, ht⟩
  · exact hts u hu

/-- A target is found by its name. -/
theorem find?_of_mem (h : t ∈ (ofConfig config).targets) :
    (ofConfig config).find? t.name = some t :=
  find?_of_nodup (nodup_names config) h

theorem find?_iff : (ofConfig config).find? name = some t ↔
    t ∈ (ofConfig config).targets ∧ t.name = name := by
  constructor
  · intro h
    exact ⟨List.mem_of_find?_eq_some h, by simpa using List.find?_some h⟩
  · rintro ⟨hmem, rfl⟩
    exact find?_of_mem hmem

/-- **A selector is resolved to the target of the name that it asks for.** -/
theorem resolve_iff {selector : Selector} : (ofConfig config).resolve selector = .ok t ↔
    t ∈ (ofConfig config).targets ∧ (ofConfig config).nameOf? selector = some t.name := by
  unfold resolve
  cases hname : (ofConfig config).nameOf? selector with
  | none => simp
  | some name =>
    rw [Option.bind_some]
    cases hfind : (ofConfig config).find? name with
    | none =>
      simp only [reduceCtorEq, false_iff, not_and, Option.some.injEq]
      -- The names are found once each, so that the target found is the one of the registry.
      rintro hmem rfl
      rw [find?_of_mem hmem] at hfind
      cases hfind
    | some u =>
      rw [Except.ok.injEq, Option.some.injEq]
      obtain ⟨hmem, rfl⟩ := find?_iff.mp hfind
      constructor
      · rintro rfl
        exact ⟨hmem, rfl⟩
      · rintro ⟨htmem, heq⟩
        rw [heq, find?_of_mem htmem] at hfind
        exact (Option.some.inj hfind).symm

/-! ## Registries that leave nothing out -/

/-- Gateways with new and distinct names, whose endpoints are URLs, add a target each. -/
theorem foldl_of_fresh {add : List Target → Config.Gateway → List Target}
    (hadd : ∀ ts g t, Target.ofGateway config g = .ok t → add ts g = insert ts t)
    {gs : List Config.Gateway} (hnodup : (gs.map (·.name)).Nodup)
    (hfresh : ∀ g ∈ gs, g.name ∉ ts.map (·.name))
    (hresolved : ∀ g ∈ gs, ∃ t, Target.ofGateway config g = .ok t) :
    ∃ us, gs.foldl add ts = ts ++ us ∧ gs.map (Target.ofGateway config) = us.map .ok := by
  -- The targets so far stay in front, for no gateway to come has one of their names.
  induction gs generalizing ts with
  | nil => exact ⟨[], (List.append_nil _).symm, rfl⟩
  | cons g rest ih =>
    obtain ⟨t, ht⟩ := hresolved g List.mem_cons_self
    rw [List.map_cons, List.nodup_cons] at hnodup
    have hname : t.name = g.name := Target.name_of_ofGateway ht
    have hnew : t.name ∉ ts.map (·.name) := hname ▸ hfresh g List.mem_cons_self
    have hlater : ∀ g' ∈ rest, g'.name ∉ (ts ++ [t]).map (·.name) := by
      intro g' hg'
      rw [List.map_append, List.mem_append, not_or]
      refine ⟨hfresh g' (List.mem_cons_of_mem _ hg'), fun heq => hnodup.1 ?_⟩
      rw [List.map_singleton, List.mem_singleton, hname] at heq
      exact heq ▸ List.mem_map_of_mem hg'
    obtain ⟨us, heq, hus⟩ := ih hnodup.2 hlater fun g' hg' =>
      hresolved g' (List.mem_cons_of_mem _ hg')
    refine ⟨t :: us, ?_, ?_⟩
    · rw [List.foldl_cons, hadd ts g t ht, insert_of_fresh hnew, heq, List.append_assoc,
        List.singleton_append]
    · rw [List.map_cons, ht, hus, List.map_cons]

/-- **One target for each gateway.** With distinct names nothing is replaced, and with endpoints that
are URLs nothing is skipped. -/
theorem targets_of_resolved (hnodup : (config.gateways.map (·.name)).Nodup)
    (hresolved : ∀ g ∈ config.gateways, ∃ t, Target.ofGateway config g = .ok t) :
    config.gateways.map (Target.ofGateway config) = (ofConfig config).targets.map .ok := by
  have hadded : ∃ us, (ofConfig config).targets = [] ++ us ∧
      config.gateways.map (Target.ofGateway config) = us.map .ok := by
    unfold ofConfig
    exact foldl_of_fresh (fun ts g t ht => by rw [ht]) hnodup (by simp) hresolved
  obtain ⟨us, rfl, hus⟩ := hadded
  exact hus

end Registry

/-! ## The stations of a registry -/

/-- The station of a name belongs to the target of that name. -/
theorem Gateway.Client.station?_ofRegistry (r : Registry) (policy : Gateway.Policy)
    (name : String) : (ofRegistry r policy).station? name =
      (r.find? name).map (Station.ofTarget · policy) := by
  simp only [station?, ofRegistry, List.find?_map, Registry.find?]
  rfl

end ObliviousRelay
