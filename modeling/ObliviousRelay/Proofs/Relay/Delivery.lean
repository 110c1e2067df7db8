import ObliviousRelay.Proofs.Relay.Settling
import ObliviousRelay.Relay.Startup

/-!
# A message is delivered at most once

The message of a visit is offered to a gateway on at most two connections. The second offer follows
the return of the first, unsent, and is made on a connection opened after it. After anything else
that becomes of an offer there is none.

- `length_offersOf_history`: how many offers a standing leaves.
- `offer_of_offered`: what lies between two offers.
- `delivered_at_most_once`: all of it, for every visit of a fresh relay.
-/

namespace ObliviousRelay.Relay

open Gateway (Station WireRequest)
open Gateway.Station (sampleTarget samplePolicy)

variable {r : Relay} {v : Nat} {g : String} {ev : RelayOccurrence} {n : Nat} {request : WireRequest}

/-! ## Fresh relays -/

/-- A relay that has just been built: no visits, and a new station for each gateway. -/
structure IsFresh (r : Relay) : Prop where
  visits : r.visits = []
  stations : ∀ g s, r.client.station? g = some s → ∃ target policy, s = .ofTarget target policy

theorem isFresh_of_registry {registry : Registry} {policy : Gateway.Policy} (hvisits : r.visits = [])
    (hclient : r.client = .ofRegistry registry policy) : r.IsFresh := by
  refine ⟨hvisits, fun g s hs => ?_⟩
  rw [hclient] at hs
  obtain ⟨t, -, rfl⟩ := List.mem_map.mp (List.mem_of_find?_eq_some hs)
  exact ⟨t, policy, rfl⟩

/-- **What a relay is built of.** -/
theorem eq_of_build {c : Config} {certificates : List Gateway.Certificate}
    (h : build c certificates = .ok r) : ∃ routes, Http.Routes.ofRoute? c.routing.pathPrefix =
      some routes ∧ r = {
        engine := .ofConfig c, routes
        route := {
          pathPrefix := c.routing.pathPrefix
          selectorHeader := (Http.FieldName.ofText? c.routing.selectorHeader).getD fallbackHeader
          maxBodySize := c.limits.maxBodySize.toNat }
        maxInflight := c.listener.maxInflight.toNat
        inboundTimeout := inboundTimeoutOf (.ofConfig c) c.timeouts.requestMs.toNat
        client := .ofRegistry (.ofConfig c) (.ofConfig c) } := by
  unfold build at h
  dsimp only at h
  -- Everything but the last branch is a fault.
  split at h
  · cases h
  · split at h
    · cases h
    · split at h
      · cases h
      · next routes hroutes =>
        split at h
        · cases h
        · exact ⟨routes, hroutes, (Except.ok.inj h).symm⟩

/-- Every relay that is built from a configuration is fresh. -/
theorem isFresh_of_build {c : Config} {certificates : List Gateway.Certificate}
    (h : build c certificates = .ok r) : r.IsFresh := by
  obtain ⟨routes, -, rfl⟩ := eq_of_build h
  exact isFresh_of_registry rfl rfl

theorem IsFresh.tied (h : r.IsFresh) : r.Tied where
  distinct := by simp [HasDistinctVisits, h.visits]
  slots g s hs := by
    obtain ⟨target, policy, rfl⟩ := h.stations g s hs
    exact .ofTarget target policy
  owned g s x p hs hp := by
    obtain ⟨target, policy, rfl⟩ := h.stations g s hs
    cases hp

/-! ## Offers of a history -/

/-- Occurrences from outside during which no new visit takes the number of a given one. -/
def Spares (v : Nat) (os : List RelayOccurrence) : Prop :=
  ∀ ev ∈ os, ev.isOutside = true ∧ ∀ head, ev ≠ .event (.arrive v head)

theorem Spares.tail {rest : List RelayOccurrence} (h : Spares v (ev :: rest)) : Spares v rest :=
  fun e he => h e (List.mem_cons_of_mem _ he)

theorem Spares.of_append {past future : List RelayOccurrence} (h : Spares v (past ++ future)) :
    Spares v past ∧ Spares v future :=
  ⟨fun e he => h e (List.mem_append_left _ he), fun e he => h e (List.mem_append_right _ he)⟩

theorem Spares.progress (h : Spares v (ev :: rest)) (hr : r.Tied) :
    Progress v (r.standing v) ev (r.occur ev).2 ((r.occur ev).1.standing v) :=
  occur_progress hr ev (h ev List.mem_cons_self).1 (h ev List.mem_cons_self).2

theorem Spares.tied {rest : List RelayOccurrence} (h : Spares v (ev :: rest)) (hr : r.Tied) :
    (r.occur ev).1.Tied :=
  hr.occur ev (h ev List.mem_cons_self).1

/-- **A history has no more offers than the standing leaves.** -/
theorem length_offersOf_history (hr : r.Tied) {os : List RelayOccurrence} (h : Spares v os) :
    (offersOf v (r.history os).2).length ≤ (r.standing v).chances := by
  induction os generalizing r with
  | nil => exact Nat.zero_le _
  | cons ev rest ih =>
    have hfirst := (h.progress hr).chances
    have hrest := ih (h.tied hr) h.tail
    rw [history_cons, offersOf_append, List.length_append]
    omega

theorem offersOf_history_of_settled (hr : r.Tied) {os : List RelayOccurrence} (h : Spares v os)
    (hsettled : r.standing v = .settled) : offersOf v (r.history os).2 = [] := by
  have hlength := length_offersOf_history hr h
  rw [hsettled] at hlength
  exact List.length_eq_zero_iff.mp (Nat.le_zero.mp hlength)

/-- An offer that is still to come is of a message that is not settled. -/
theorem not_settled_of_offer (hr : r.Tied) {between rest : List RelayOccurrence}
    (h : Spares v (between ++ ev :: rest)) {o : Offer}
    (ho : o ∈ offersOf v ((r.history between).1.occur ev).2) : r.standing v ≠ .settled := by
  intro hsettled
  have hnone := offersOf_history_of_settled hr h hsettled
  rw [history_append, history_cons, offersOf_append, offersOf_append, List.append_eq_nil_iff,
    List.append_eq_nil_iff] at hnone
  rw [hnone.2.1] at ho
  cases ho

/-- The offer after a return: the same request at the same gateway, on a new connection. -/
theorem offer_of_returned (hr : r.Tied) {between rest : List RelayOccurrence}
    (h : Spares v (between ++ ev :: rest)) (hreturned : r.standing v = .returned g request)
    {o : Offer} (ho : o ∈ offersOf v ((r.history between).1.occur ev).2) :
    o.gateway = g ∧ o.request = request ∧
      .station g (.opened o.serial) ∈ ((r.history between).1.occur ev).2 := by
  induction between generalizing r with
  | nil =>
    have hprogress := h.progress hr
    rw [hreturned] at hprogress
    change o ∈ offersOf v (r.occur ev).2 at ho
    show _ ∧ _ ∧ _ ∈ (r.occur ev).2
    generalize (r.occur ev).2 = effects, (r.occur ev).1.standing v = τ at hprogress ho
    cases hprogress with
    | stay _ _ _ hno | close _ _ _ hno =>
      rw [hno] at ho
      cases ho
    | second effects g n w hone hopened =>
      rw [hone, List.mem_singleton] at ho
      rw [ho]
      exact ⟨rfl, rfl, hopened⟩
  | cons e between ih =>
    have hprogress := h.progress hr
    -- The offer is still to come, so the message is not settled in between.
    have hopen : (r.occur e).1.standing v ≠ .settled := not_settled_of_offer (h.tied hr) h.tail ho
    have hstill : (r.occur e).1.standing v = .returned g request := by
      rw [hreturned] at hprogress
      generalize (r.occur e).2 = effects, (r.occur e).1.standing v = τ at hprogress hopen ⊢
      cases hprogress with
      | stay => rfl
      | close => exact absurd rfl hopen
      | second => exact absurd rfl hopen
    exact ih (h.tied hr) h.tail hstill ho

/-- An offer is taken back in the course of some occurrences: its connection returned the message
unsent and was closed, and another one is dialled. -/
def TakenBack (r : Relay) (v : Nat) (o : Offer) (os : List RelayOccurrence) : Prop :=
  ∃ past error rest, os = past ++ .event (.station o.gateway (.returned v error)) :: rest ∧
    let effects := ((r.history past).1.step (.station o.gateway (.returned v error))).2
    .station o.gateway (.closed o.serial) ∈ effects ∧ .station o.gateway (.dialling v) ∈ effects

theorem TakenBack.cons {o : Offer} {os : List RelayOccurrence}
    (h : TakenBack (r.occur ev).1 v o os) : TakenBack r v o (ev :: os) := by
  obtain ⟨past, error, rest, rfl, heffects⟩ := h
  exact ⟨ev :: past, error, rest, rfl, heffects⟩

/-- What an offer leaves, if it does not leave the message settled. -/
theorem offered_of_offer (hr : r.Tied) {rest : List RelayOccurrence} (h : Spares v (ev :: rest))
    {o : Offer} (ho : o ∈ offersOf v (r.occur ev).2)
    (hopen : (r.occur ev).1.standing v ≠ .settled) :
    (r.occur ev).1.standing v = .offered o.gateway o.serial o.request := by
  have hprogress := h.progress hr
  generalize (r.occur ev).2 = effects, (r.occur ev).1.standing v = τ,
    r.standing v = σ at hprogress ho hopen ⊢
  cases hprogress with
  | stay _ _ _ hno | close _ _ _ hno | giveBack _ _ _ _ _ _ hno =>
    rw [hno] at ho
    cases ho
  | first e effects g n w τ he hone hτ =>
    rw [hone, List.mem_singleton] at ho
    rw [ho]
    exact hτ.resolve_right hopen
  | second => exact absurd rfl hopen

/-- The offer after an offer: the first one was taken back in between. -/
theorem offer_of_offered (hr : r.Tied) {between rest : List RelayOccurrence}
    (h : Spares v (between ++ ev :: rest)) {first : Offer}
    (hoffered : r.standing v = .offered first.gateway first.serial first.request)
    {o : Offer} (ho : o ∈ offersOf v ((r.history between).1.occur ev).2) :
    o.gateway = first.gateway ∧ o.request = first.request ∧
      .station o.gateway (.opened o.serial) ∈ ((r.history between).1.occur ev).2 ∧
      TakenBack r v first between := by
  induction between generalizing r with
  | nil =>
    -- What happens next to an offer is not another one.
    exfalso
    have hprogress := h.progress hr
    rw [hoffered] at hprogress
    change o ∈ offersOf v (r.occur ev).2 at ho
    generalize (r.occur ev).2 = effects, (r.occur ev).1.standing v = τ at hprogress ho
    cases hprogress with
    | stay _ _ _ hno | close _ _ _ hno =>
      rw [hno] at ho
      cases ho
    | giveBack effects g n w error τ hno =>
      rw [hno] at ho
      cases ho
  | cons e between ih =>
    have hprogress := h.progress hr
    have hopen : (r.occur e).1.standing v ≠ .settled := not_settled_of_offer (h.tied hr) h.tail ho
    rw [hoffered] at hprogress
    have hcases : (r.occur e).1.standing v = .offered first.gateway first.serial first.request ∨
        (r.occur e).1.standing v = .returned first.gateway first.request ∧
          TakenBack r v first (e :: between) := by
      generalize heffects : (r.occur e).2 = effects, (r.occur e).1.standing v = τ at hprogress hopen ⊢
      cases hprogress with
      | stay => exact .inl rfl
      | close => exact absurd rfl hopen
      | giveBack effects g n w error τ hno hclosed hdial hτ =>
        rw [← heffects] at hclosed hdial
        exact .inr ⟨hτ.resolve_right hopen, [], error, between, rfl, hclosed, hdial⟩
    rcases hcases with hstill | ⟨hreturned, hback⟩
    · obtain ⟨hgateway, hrequest, hopened, hback⟩ := ih (h.tied hr) h.tail hstill ho
      exact ⟨hgateway, hrequest, hopened, hback.cons⟩
    · obtain ⟨hgateway, hrequest, hopened⟩ := offer_of_returned (h.tied hr) h.tail hreturned ho
      exact ⟨hgateway, hrequest, hgateway ▸ hopened, hback⟩

/-! ## At most once -/

/-- A visit that arrives offers nothing yet. -/
theorem offersOf_arrive (h : r.Tied) (hnew : r.visit? v = none) (head : Http.RequestHead) :
    offersOf v (r.step (.arrive v head)).2 = [] := by
  have hdistinct := (keeps_append r ⟨v, head.method, .waiting head⟩ hnew).distinct h.distinct
  simp only [step, hnew, Option.isSome_none]
  exact offersOf_of_noStation (startWaiting_advances hdistinct).2

/-- **A message is delivered at most once.** Whatever gateways, network, clock and clients do, a
visit of a fresh relay has no more than two offers from its arrival on, one at a time:

- Of two offers the first was taken back, so at most one was accepted. The second one hands the same
  request to the same gateway, on a connection opened only then.
- Once the message is settled, there are no more offers. -/
theorem delivered_at_most_once (r₀ : Relay) (hfresh : r₀.IsFresh)
    (before after : List RelayOccurrence)
    (hbefore : ∀ ev ∈ before, ev.isOutside = true) (hnew : (r₀.history before).1.visit? v = none)
    (head : Http.RequestHead) (hafter : Spares v after) :
    let arrival := (r₀.history before).1.step (.arrive v head)
    let r := arrival.1
    offersOf v arrival.2 = [] ∧ (offersOf v (r.history after).2).length ≤ 2 ∧
    (∀ past ev rest, after = past ++ ev :: rest →
      (offersOf v ((r.history past).1.occur ev).2).length ≤ 1) ∧
    (∀ past ev₁ between ev₂ rest o₁ o₂, after = past ++ ev₁ :: (between ++ ev₂ :: rest) →
      let first := (r.history past).1.occur ev₁
      let second := (first.1.history between).1.occur ev₂
      o₁ ∈ offersOf v first.2 → o₂ ∈ offersOf v second.2 →
      TakenBack first.1 v o₁ between ∧ o₂.gateway = o₁.gateway ∧ o₂.request = o₁.request ∧
        .station o₂.gateway (.opened o₂.serial) ∈ second.2) ∧
    (∀ past ev rest, after = past ++ .event ev :: rest → Settles v (r.history past).1 ev →
      offersOf v (((r.history past).1.step ev).1.history rest).2 = []) := by
  intro arrival r
  have hold : (r₀.history before).1.Tied := hfresh.tied.history hbefore
  have htied : r.Tied := hold.step (.arrive v head) rfl
  have hpast : ∀ {past rest}, after = past ++ rest → (r.history past).1.Tied ∧ Spares v rest := by
    rintro past rest rfl
    obtain ⟨hpast, hrest⟩ := hafter.of_append
    exact ⟨htied.history fun ev hev => (hpast ev hev).1, hrest⟩
  refine ⟨offersOf_arrive hold hnew head, ?_, fun past ev rest hsplit => ?_, ?_, ?_⟩
  -- Two offers at most, for no standing leaves more.
  · exact (length_offersOf_history htied hafter).trans (Standing.chances_le _)
  · obtain ⟨hr, hspares⟩ := hpast hsplit
    exact (hspares.progress hr).length_offersOf_le
  · intro past ev₁ between ev₂ rest o₁ o₂ hsplit first second ho₁ ho₂
    obtain ⟨hr, hspares⟩ := hpast hsplit
    -- A second offer is made, so the first did not settle the message.
    have hopen := not_settled_of_offer (hspares.tied hr) hspares.tail ho₂
    have hoffered := offered_of_offer hr hspares ho₁ hopen
    obtain ⟨hgateway, hrequest, hopened, hback⟩ :=
      offer_of_offered (hspares.tied hr) hspares.tail hoffered ho₂
    exact ⟨hback, hgateway, hrequest, hopened⟩
  · intro past ev rest hsplit hsettles
    obtain ⟨hr, hspares⟩ := hpast hsplit
    have hsettled := hsettles.settled hr (hspares _ List.mem_cons_self).1
    exact offersOf_history_of_settled (hspares.tied hr) hspares.tail hsettled

/-- A relay for one gateway, which serves one visit at a time. -/
def sampleRelay : Relay where
  engine := ⟨⟨[sampleTarget], some sampleTarget.name⟩, 1024⟩
  route := ⟨"/", fallbackHeader, 1024⟩
  routes := ⟨[.literal []], [.capture []]⟩
  maxInflight := 1
  inboundTimeout := 2000
  client := .ofRegistry ⟨[sampleTarget], some sampleTarget.name⟩ samplePolicy

/-- The head of a request that the relay admits. -/
def sampleHead : Http.RequestHead where
  method := "POST"
  path := "/"
  fields := [⟨.contentType, MediaType.request.text.toUTF8⟩]

/-- A message of one byte comes back unsent from its first connection, is offered on another, and is
answered there. -/
theorem delivered_at_most_once_resent :
    let atGateway (e : Gateway.Event) : RelayOccurrence := .event (.station sampleTarget.name e)
    let upload := [.event (.piece 0 (.bytes ⟨#[1]⟩)), .event (.uploaded 0), atGateway (.proceed 0),
      atGateway (.connected 0)]
    let uploaded := ((sampleRelay.step (.arrive 0 sampleHead)).1.history upload).1
    let first := uploaded.occur (atGateway (.ready 0))
    let returned := first.1.history [atGateway (.returned 0 "closed")]
    let second := returned.1.occur (atGateway (.connected 0))
    (∃ o₁ o₂, offersOf 0 first.2 = [o₁] ∧ offersOf 0 second.2 = [o₂] ∧ o₂.request = o₁.request ∧
      TakenBack first.1 0 o₁ [atGateway (.returned 0 "closed")]) ∧
    offersOf 0 (second.1.history [atGateway (.answered 0 .ok none), .delay 5000]).2 = [] := by
  intro atGateway upload uploaded first returned second
  let rest := [atGateway (.answered 0 .ok none), .delay 5000]
  let after := upload ++ atGateway (.ready 0) ::
    ([atGateway (.returned 0 "closed")] ++ atGateway (.connected 0) :: rest)
  have hspares : Spares 0 after := by
    simp [Spares, after, upload, rest, atGateway, RelayOccurrence.isOutside, RelayEvent.isOutside,
      Gateway.Event.isOwn]
  obtain ⟨-, hlength, -, htwice, -⟩ := delivered_at_most_once sampleRelay
    (isFresh_of_registry rfl rfl) [] after (by simp) rfl sampleHead hspares
  have hfirst : (offersOf 0 first.2).length = 1 := by decide +kernel
  have hsecond : (offersOf 0 second.2).length = 1 := by decide +kernel
  obtain ⟨o₁, h₁⟩ := List.length_eq_one_iff.mp hfirst
  obtain ⟨o₂, h₂⟩ := List.length_eq_one_iff.mp hsecond
  obtain ⟨hback, -, hrequest, -⟩ := htwice _ _ _ _ _ o₁ o₂ rfl (h₁ ▸ List.mem_singleton_self o₁)
    (h₂ ▸ List.mem_singleton_self o₂)
  refine ⟨⟨o₁, o₂, h₁, h₂, hrequest, hback⟩, ?_⟩
  -- Both offers are made by then.
  rw [history_append, history_cons, history_append, history_cons] at hlength
  simp only [offersOf_append, List.length_append] at hlength
  change _ + ((offersOf 0 first.2).length + (_ + ((offersOf 0 second.2).length +
    (offersOf 0 (second.1.history rest).2).length))) ≤ 2 at hlength
  have hrest : (offersOf 0 (second.1.history rest).2).length = 0 := by omega
  exact List.length_eq_zero_iff.mp hrest

end ObliviousRelay.Relay
