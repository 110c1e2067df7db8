import ObliviousRelay.Proofs.Gateway.CleanPool
import ObliviousRelay.Proofs.Gateway.Clients
import ObliviousRelay.Proofs.Routing.Registry

/-!
# Isolation between gateways

A connection leads to the gateway whose station dialled it, and stays at that station until it is
closed. What happens at one station makes no difference to another one, over whole histories: strike
out everything that is not about a gateway, and its station does what it did before.

- `Station.connections`: the connections that lie idle or have an owner; `LeadsTo.history` says that
  all of them lead to the target.
- `gateways_isolated`: both parts, for the client of any configuration.
-/

namespace ObliviousRelay.Gateway

namespace Station

variable {s t : Station} {x : Nat} {p q : Phase} {e : Event} {o : Outcome} {c : Connection}
  {url : Url} {effects : List Effect}

/-! ## The connections of a station -/

/-- The connections that exchanges own. -/
def owned (s : Station) : List Connection := s.exchanges.filterMap (·.phase.connection?)

/-- The connections of a station: those that lie idle and those that exchanges own. -/
def connections (s : Station) : List Connection := s.pool.idle ++ s.owned

/-- What an exchange has is owned. -/
theorem mem_owned_of_phase? (hp : s.phase? x = some p) (hc : p.connection? = some c) :
    c ∈ s.owned :=
  List.mem_filterMap.mpr ⟨_, mem_exchanges_of_phase? hp, hc⟩

/-- Setting a phase adds at most its own connection. -/
theorem mem_owned_setPhase (h : c ∈ (s.setPhase x q).owned) :
    c ∈ s.owned ∨ q.connection? = some c := by
  obtain ⟨e, he, hc⟩ := List.mem_filterMap.mp h
  obtain ⟨old, hold, rfl⟩ := List.mem_map.mp he
  split at hc
  · exact .inr hc
  · exact .inl (List.mem_filterMap.mpr ⟨old, hold, hc⟩)

/-- So does a new exchange. -/
theorem mem_owned_insert (h : c ∈ (s.insert x q).owned) :
    c ∈ s.owned ∨ q.connection? = some c := by
  simpa [owned, insert] using h

/-- Leaving adds none. -/
theorem mem_owned_erase (h : c ∈ (s.erase x).owned) : c ∈ s.owned := by
  obtain ⟨e, he, hc⟩ := List.mem_filterMap.mp h
  exact List.mem_filterMap.mpr ⟨e, (List.mem_filter.mp he).1, hc⟩

/-- Who ends gives its connection up, and nobody else gets one by that. -/
theorem mem_connections_finish (h : c ∈ (s.finish x).1.connections) : c ∈ s.connections := by
  rcases s.finish_shape x with ⟨slots, heq⟩ | ⟨slots, y, timeout, heq⟩ <;> rw [heq] at h <;>
    rcases List.mem_append.mp h with hidle | howned
  · exact List.mem_append_left _ hidle
  · exact List.mem_append_right _ (mem_owned_erase howned)
  · exact List.mem_append_left _ hidle
  · rcases mem_owned_setPhase (q := .granted timeout) howned with hold | hnew
    · exact List.mem_append_right _ (mem_owned_erase hold)
    · cases hnew

/-! ## Where connections lead -/

/-- All connections of a station lead to one place. -/
def LeadsTo (url : Url) (s : Station) : Prop := ∀ c ∈ s.connections, c.endpoint = url

/-- A station without exchanges leads nowhere yet. -/
theorem LeadsTo.ofTarget (target : Target) (policy : Policy) :
    LeadsTo url (ofTarget target policy) := by
  intro c hc
  cases hc

/-- Setting a phase keeps where all lead, if its connection leads there. -/
theorem LeadsTo.setPhase (h : LeadsTo url s) (hidle : t.pool.idle ⊆ s.pool.idle)
    (howned : t.owned = s.owned) (hq : ∀ c, q.connection? = some c → c.endpoint = url) :
    LeadsTo url (t.setPhase x q) := by
  intro c hc
  rcases List.mem_append.mp hc with hc | hc
  · exact h c (List.mem_append_left _ (hidle hc))
  · rcases mem_owned_setPhase hc with hold | hnew
    · exact h c (List.mem_append_right _ (howned ▸ hold))
    · exact hq c hnew

/-- A new exchange has no connection that could lead elsewhere. -/
theorem LeadsTo.insert (h : LeadsTo url s) (hq : q.connection? = none) :
    LeadsTo url (s.insert x q) := by
  intro c hc
  rcases List.mem_append.mp hc with hc | hc
  · exact h c (List.mem_append_left _ hc)
  · rcases mem_owned_insert hc with hold | hnew
    · exact h c (List.mem_append_right _ hold)
    · rw [hq] at hnew
      cases hnew

/-- Who leaves takes nothing but its own connection away. -/
theorem LeadsTo.erase (h : LeadsTo url s) : LeadsTo url (s.erase x) := by
  intro c hc
  rcases List.mem_append.mp hc with hc | hc
  · exact h c (List.mem_append_left _ hc)
  · exact h c (List.mem_append_right _ (mem_owned_erase hc))

/-- A connection that is put aside leads where it led before. -/
theorem LeadsTo.disposal {disposal : Outcome} (h : LeadsTo url s) (hp : s.phase? x = some p)
    (hending : Ending s x e p disposal effects) : LeadsTo url disposal.1 := by
  -- Whether it is put aside or closed, nothing leads elsewhere than before.
  cases hending with
  | releaseClean c t hclean =>
    unfold putAside
    split
    · exact h
    · intro c' hc'
      rcases List.mem_cons.mp hc' with rfl | hold
      · exact h c (List.mem_append_right _ (mem_owned_of_phase? hp rfl))
      · exact h c' hold
  | drop p hslot =>
    rw [closeOwn, closeAll_eq]
    exact h
  | _ => exact h

/-- **New connections are dialled to the target, old ones lead where they led.** -/
theorem LeadsTo.transition (h : LeadsTo s.target.endpoint s) (ht : Transition s e o) :
    LeadsTo s.target.endpoint o.1 := by
  -- Phases without a connection lead nowhere.
  have hnone : ∀ {q : Phase}, q.connection? = none →
      ∀ c, q.connection? = some c → c.endpoint = s.target.endpoint := by
    intro q hq c hc
    rw [hq] at hc
    cases hc
  cases ht with
  | still | dead | refuse | lose | elapse => exact h
  | accept x timeout | enqueue x timeout => exact h.insert rfl
  | withdraw x timeout | overdue x timeout => exact h.erase
  -- The reused connection was idle, and leads to the endpoint as all of these.
  | reuse x timeout c unusable left hp hidle =>
    refine h.setPhase (t := s.withIdle left unusable.length) ?_ rfl ?_
    · rw [hidle]
      exact fun c' hc' => List.mem_append_right _ (List.mem_cons_of_mem _ hc')
    · intro c' hc'
      obtain rfl : c = c' := Option.some.inj hc'
      exact h c (List.mem_append_left _ (hidle ▸ by simp))
  | dial x timeout hp =>
    exact h.setPhase (t := s.withIdle [] s.pool.idle.length) (List.nil_subset _) rfl (hnone rfl)
  -- The connection stays with its exchange.
  | pass x hp hpass =>
    refine h.setPhase (List.Subset.refl _) rfl fun c hc => ?_
    rw [hpass.connection?_eq] at hc
    exact h c (List.mem_append_right _ (mem_owned_of_phase? hp hc))
  | @lossOf e p q c before after x hp hloss =>
    exact h.setPhase (t := (s.close c).1) (List.Subset.refl _) rfl (hnone hloss.connection?_eq.2)
  -- A new connection is made to the gateway's own endpoint.
  | gain x d purpose attempt bound stops hp hgain =>
    refine h.setPhase (t := s.opened.2.1) (List.Subset.refl _) rfl fun c hc => ?_
    rw [hgain.connection?_eq] at hc
    obtain rfl := Option.some.inj hc
    rfl
  | surrender x hp hsurrender => exact h.setPhase (List.Subset.refl _) rfl (hnone rfl)
  | ending x hp hending =>
    exact fun c hc => h.disposal hp hending c (mem_connections_finish hc)

/-- An occurrence keeps where all lead. -/
theorem LeadsTo.occur (h : LeadsTo s.target.endpoint s) (o : Occurrence) :
    LeadsTo (s.occur o).1.target.endpoint (s.occur o).1 := by
  rw [(occur_target s o).1]
  cases o with
  | event e => exact h.transition (step_transition s e)
  | delay duration => exact h

/-- **All connections of a station lead to its target, whatever happens to it.** -/
theorem LeadsTo.history (h : LeadsTo s.target.endpoint s) (os : List Occurrence) :
    LeadsTo (s.history os).1.target.endpoint (s.history os).1 :=
  history_induction (P := fun r _ => LeadsTo r.target.endpoint r) [] h
    (fun _ _ o h => h.occur o) os

/-- **Every connection of a station was opened there.** -/
theorem ConnectionAccount.opened_of_mem (h : s.ConnectionAccount effects) (hs : s.SlotAccount)
    (hc : c ∈ s.connections) : .opened c.serial ∈ effects := by
  -- It is counted where it is, so its number is one of those that were given.
  have hplace : 1 ≤ s.idleCount c.serial + s.ownersOf c.serial := by
    rcases List.mem_append.mp hc with hidle | howned
    · -- It is idle.
      have hcount : 0 < s.idleCount c.serial :=
        List.countP_pos_iff.mpr ⟨c, hidle, decide_eq_true rfl⟩
      omega
    · -- Some exchange has it.
      obtain ⟨⟨x, p⟩, he, hp⟩ := List.mem_filterMap.mp howned
      have hone := one_le_ownersOf (hs.distinct.phase?_of_mem he) hp
      omega
  have hplaced := h.placed c.serial
  have hopened := h.opened c.serial
  apply List.count_pos_iff.mp
  omega

end Station

namespace Client

/-! ## Isolation -/

/-- The client of a configuration. -/
def ofConfig (config : Config) : Client := .ofRegistry (.ofConfig config) (.ofConfig config)

/-- A station of a configuration's client belongs to a gateway of the configuration. -/
theorem station?_ofConfig {config : Config} {g : String} {s : Station}
    (h : (ofConfig config).station? g = some s) :
    ∃ gateway ∈ config.gateways, gateway.name = g ∧
      ∃ t, Target.ofGateway config gateway = .ok t ∧ s = .ofTarget t (.ofConfig config) := by
  rw [ofConfig, station?_ofRegistry] at h
  obtain ⟨t, hfind, rfl⟩ := Option.map_eq_some_iff.mp h
  obtain ⟨hmem, rfl⟩ := Registry.find?_iff.mp hfind
  obtain ⟨gateway, hgateway, ht⟩ := Registry.exists_gateway_of_mem hmem
  exact ⟨gateway, hgateway, (Target.name_of_ofGateway ht).symm, t, ht, rfl⟩

/-- What is left of some occurrences without those at other gateways. -/
def only (g : String) (os : List ClientOccurrence) : List ClientOccurrence :=
  os.filter fun o => (o.at? g).isSome

/-- The part of a station is not touched by striking out the others. -/
theorem partOf_only (g : String) (os : List ClientOccurrence) :
    partOf g (only g os) = partOf g os := by
  -- What is not this gateway's is left out in both.
  induction os with
  | nil => rfl
  | cons o rest ih =>
    rw [only, List.filter_cons]
    split
    · next h =>
      obtain ⟨o', ho'⟩ := Option.isSome_iff_exists.mp h
      rw [partOf, List.filterMap_cons_some ho', partOf, List.filterMap_cons_some ho']
      exact congrArg _ ih
    · next h =>
      have hnone : o.at? g = none := Option.not_isSome_iff_eq_none.mp h
      rw [partOf, partOf, List.filterMap_cons_none hnone]
      exact ih

/-- **A station does not notice what happens elsewhere.** Without the occurrences at other gateways
it ends as it does with them, and brings the same about. -/
theorem history_only (c : Client) (g : String) (os : List ClientOccurrence) :
    (c.history (only g os)).1.station? g = (c.history os).1.station? g ∧
      effectsAt g (c.history (only g os)).2 = effectsAt g (c.history os).2 := by
  cases hs : c.station? g with
  | none =>
    obtain ⟨hstation, heffects⟩ := station?_history_of_none hs os
    obtain ⟨hstation', heffects'⟩ := station?_history_of_none hs (only g os)
    exact ⟨hstation'.trans hstation.symm, heffects'.trans heffects.symm⟩
  | some s =>
    obtain ⟨hstation, heffects⟩ := station?_history hs os
    obtain ⟨hstation', heffects'⟩ := station?_history hs (only g os)
    rw [partOf_only] at hstation' heffects'
    exact ⟨hstation'.trans hstation.symm, heffects'.trans heffects.symm⟩

/-- **Gateways are isolated from each other.** After any interleaving of what happens at the gateways
of a configuration:

- The station under a name belongs to a gateway of that name. Every connection that lies idle there
  or has an owner there leads to that gateway's endpoint and was opened at that station.
- What happens next at another gateway changes nothing of the station.
- The station, and all that it has brought about, is the same as without the other gateways. -/
theorem gateways_isolated (config : Config) (os : List ClientOccurrence) (g : String) :
    let c := ((ofConfig config).history os).1
    let effects := ((ofConfig config).history os).2
    let alone := (ofConfig config).history (only g os)
    (∀ s, c.station? g = some s →
      (∃ gateway ∈ config.gateways, gateway.name = g ∧
        Target.ofGateway config gateway = .ok s.target) ∧
      ∀ connection ∈ s.connections, connection.endpoint = s.target.endpoint ∧
        .opened connection.serial ∈ effectsAt g effects) ∧
    (∀ g' e, g' ≠ g → (c.step g' e).1.station? g = c.station? g) ∧
    (c.station? g = alone.1.station? g ∧ effectsAt g effects = effectsAt g alone.2) := by
  intro c effects alone
  refine ⟨fun s hs => ?_, fun g' e hne => station?_step_of_ne (Ne.symm hne), ?_⟩
  -- The gateway is one of those that were there from the beginning.
  · cases hfirst : (ofConfig config).station? g with
    | none =>
      rw [(station?_history_of_none hfirst os).1] at hs
      cases hs
    | some s₀ =>
      obtain ⟨hstation, heffects⟩ := station?_history hfirst os
      obtain rfl := Option.some.inj (hs.symm.trans hstation)
      obtain ⟨gateway, hgateway, hname, t, ht, rfl⟩ := station?_ofConfig hfirst
      -- From here on it is the history of one new station.
      obtain ⟨hslots, hconnections⟩ := Station.accounts_ofTarget t (.ofConfig config) (partOf g os)
      have htarget := (Station.history_target (.ofTarget t (.ofConfig config)) (partOf g os)).1
      refine ⟨⟨gateway, hgateway, hname, ?_⟩, fun connection hc => ⟨?_, ?_⟩⟩
      · rw [htarget]
        exact ht
      · exact Station.LeadsTo.history (.ofTarget t (.ofConfig config)) (partOf g os) connection hc
      · rw [heffects]
        exact hconnections.opened_of_mem hslots hc
  · -- The other gateways' occurrences leave no trace at this one.
    obtain ⟨hstation, heffects⟩ := (ofConfig config).history_only g os
    exact ⟨hstation.symm, heffects.symm⟩

/-- Two gateways with room for one connection each. -/
def pairConfig : Config where
  gateways := [{ name := "one", endpoint := "http://[::1]", poolSize := 1 },
    { name := "two", endpoint := "http://[::2]", poolSize := 1 }]

/-- Both gateways have a lease. The connection of the first one leads there, and the first one's
station is as it is when the second lease is dropped, and as if there had been none. -/
theorem gateways_isolated_pair :
    let first : List ClientOccurrence := [.event "one" (.request 0 1000),
      .event "one" (.proceed 0), .event "one" (.connected 0)]
    let both : List ClientOccurrence := [.event "one" (.request 0 1000),
      .event "two" (.request 0 1000), .event "one" (.proceed 0), .event "two" (.proceed 0),
      .event "two" (.connected 0), .event "one" (.connected 0)]
    let c := ((ofConfig pairConfig).history both).1
    (∃ s connection, c.station? "one" = some s ∧ connection ∈ s.connections ∧
      connection.endpoint = s.target.endpoint ∧
      ∃ gateway ∈ pairConfig.gateways, gateway.name = "one" ∧
        Target.ofGateway pairConfig gateway = .ok s.target) ∧
    (c.step "two" (.drop 0)).1.station? "one" = c.station? "one" ∧
    c.station? "one" = ((ofConfig pairConfig).history first).1.station? "one" := by
  intro first both c
  obtain ⟨hall, hother, halone, -⟩ := gateways_isolated pairConfig both "one"
  have hopen : ((c.station? "one").any (!·.connections.isEmpty)) = true := by decide +kernel
  obtain ⟨s, hs, hsome⟩ := (Option.any_eq_true _ _).mp hopen
  have hne : s.connections ≠ [] := by simpa using hsome
  obtain ⟨connection, hconnection⟩ := List.exists_mem_of_ne_nil s.connections hne
  obtain ⟨hgateway, hleads⟩ := hall s hs
  -- Of what happens, only the first gateway's part is about it.
  have honly : only "one" both = first := by decide
  rw [honly] at halone
  exact ⟨⟨s, connection, hs, hconnection, (hleads connection hconnection).1, hgateway⟩,
    hother "two" (.drop 0) (by decide), halone⟩

end Client

end ObliviousRelay.Gateway
