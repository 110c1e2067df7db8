import ObliviousRelay.Proofs.Forwarding.Protocol
import ObliviousRelay.Proofs.Gateway.Content
import ObliviousRelay.Proofs.Relay.Noninterference
import ObliviousRelay.Proofs.Relay.Rounds

/-!
# What a visit is made of

Where a visit stands tells what was made of its request by then. An exchange is made of a head that
was admitted and of all pieces of a body that came before it was complete, and carries just this
message to the gateway of its target.

- `Tells`: what the phase of a visit tells of its past; `Relay.tells_history`.
- `Relay.Carries`: the exchange of a visit carries the visit's message; `Relay.Carries.history`.
- `Relay.offered_made`: what is offered for a visit was made of its request.
-/

namespace ObliviousRelay

open Gateway (Outbound Station WireRequest wireRequest)
open Gateway.Station (CarriesIn)

/-! ## Messages -/

/-- A target that is prepared is permitted, and the message is not too long for it. -/
theorem Engine.of_prepare {e : Engine} {selector : Selector} {m : Message} {t : Target}
    (h : e.prepare selector m = .ok t) :
    e.registry.find? t.name = some t ∧ m.payload.size ≤ t.maxBodySize := by
  obtain ⟨hresolve, hcheck⟩ := (prepare_eq_ok e selector m t).mp h
  refine ⟨?_, (Target.check_eq_ok_iff.mp hcheck).2⟩
  unfold Registry.resolve at hresolve
  split at hresolve
  · next t' hfind =>
    obtain rfl := Except.ok.inj hresolve
    -- What is found under a name has that name.
    obtain ⟨name, -, hname⟩ := Option.bind_eq_some_iff.mp hfind
    obtain rfl : t'.name = name := by simpa using List.find?_some hname
    exact hname
  · cases hresolve

/-! ## What a phase tells -/

/-- The piece of a visit's body that an occurrence brings. -/
def RelayOccurrence.piece? (v : Nat) : RelayOccurrence → Option Http.Piece
  | .event (.piece u p) => if u = v then some p else none
  | _ => none

/-- The pieces of a visit's body that come in the course of some occurrences. -/
def bodyOf (v : Nat) (os : List RelayOccurrence) : Http.Body := os.filterMap (·.piece? v)

/-- What was made of the request of a visit that became an exchange. Its body was complete and was
read as a message, which meets the policy of its target. -/
structure Made (c : Setup) (v : Nat) (head : Http.RequestHead) (past : List RelayOccurrence)
    (t : Target) (m : Message) : Prop where
  intro ::
  complete : ∃ upload more a i, past = upload ++ .event (.uploaded v) :: more ∧
    Http.Inbound.screen c.route head = .ok a ∧
    Http.Inbound.receive c.route a (bodyOf v upload) = .ok i ∧
    c.engine.prepare i.selector i.message = .ok t ∧ i.message = m

/-- What the phase of a visit tells of its past since it arrived. -/
def Tells (c : Setup) (v : Nat) (head : Http.RequestHead) (past : List RelayOccurrence) :
    VisitPhase → Prop
  | .waiting head' => head' = head ∧ bodyOf v past = []
  | .uploading _ a body => Http.Inbound.screen c.route head = .ok a ∧ body = bodyOf v past
  | .exchanging _ g m => ∃ t, t.name = g ∧ Made c v head past t m

variable {c : Setup} {v : Nat} {g : String} {head : Http.RequestHead} {o : RelayOccurrence}
  {past os : List RelayOccurrence} {t : Target} {m : Message}

theorem bodyOf_concat_of_ne (h : ∀ p, o ≠ .event (.piece v p)) :
    bodyOf v (past ++ [o]) = bodyOf v past := by
  have hnone : o.piece? v = none := by
    unfold RelayOccurrence.piece?
    split
    · next u p =>
      rw [if_neg]
      rintro rfl
      exact h p rfl
    · rfl
  simp [bodyOf, hnone]

theorem bodyOf_concat_piece (p : Http.Piece) :
    bodyOf v (past ++ [.event (.piece v p)]) = bodyOf v past ++ [p] := by
  simp [bodyOf, RelayOccurrence.piece?]

theorem Made.extend (h : Made c v head past t m) (o : RelayOccurrence) :
    Made c v head (past ++ [o]) t m := by
  obtain ⟨upload, more, a, i, rfl, hrest⟩ := h
  exact ⟨upload, more ++ [o], a, i, by simp, hrest⟩

/-- **What was made of a request**: the type of encapsulated requests, and as payload the bytes of
its body, within the bounds of the relay and of its target. -/
theorem Made.message (h : Made c v head past t m) : ∃ upload more chunks,
    past = upload ++ .event (.uploaded v) :: more ∧ bodyOf v upload = chunks.map .bytes ∧
    m = ⟨.request, joined chunks⟩ ∧ 0 < m.payload.size ∧
    m.payload.size ≤ min c.route.maxBodySize t.maxBodySize ∧
    c.engine.registry.find? t.name = some t ∧ head.method = "POST" := by
  obtain ⟨upload, more, a, i, hpast, hscreen, hreceived, hprepared, rfl⟩ := h
  obtain ⟨hmethod, -, ⟨-, htype⟩, -⟩ := Http.Inbound.screen_eq_ok_iff.mp hscreen
  obtain ⟨hfind, hsize⟩ := Engine.of_prepare hprepared
  -- The declared type was screened when the visit had its turn.
  obtain ⟨chunks, hchunks, hpos, hbound, rfl⟩ :=
    (Http.Inbound.receive_eq_ok_iff htype).mp hreceived
  exact ⟨upload, more, chunks, hpast, hchunks, rfl, hpos, Nat.le_min.mpr ⟨hbound, hsize⟩, hfind,
    hmethod⟩

/-- A stride of a visit tells what follows of its past. -/
theorem Stride.tells {w w' : Option Visit} {effects : List RelayEffect}
    (h : Stride c v o w effects w') (hturn : ∀ p, o = .event (.piece v p) →
      ∀ u, w = some u → u.isRunning = true)
    (hw : ∀ u, w = some u → u.method = head.method ∧ Tells c v head past u.phase) :
    ∀ u, w' = some u → u.method = head.method ∧ Tells c v head (past ++ [o]) u.phase := by
  intro u hu
  -- Nothing of the body of a visit comes that is waiting.
  have hwaits : ∀ {z head'}, w = some z → z.phase = .waiting head' →
      bodyOf v (past ++ [o]) = bodyOf v past := by
    intro z head' hz hphase
    refine bodyOf_concat_of_ne fun p hp => ?_
    have hrunning := hturn p hp z hz
    simp [Visit.isRunning, hphase] at hrunning
  cases h with
  | turn w w' effects hgiven hpiece =>
    cases hgiven with
    | aside =>
      obtain ⟨hmethod, htells⟩ := hw u hu
      refine ⟨hmethod, ?_⟩
      cases hphase : u.phase with
      | waiting head' =>
        rw [hphase] at htells
        exact ⟨htells.1, (hwaits hu hphase).trans htells.2⟩
      | uploading due a body =>
        rw [hphase] at htells
        refine ⟨htells.1, htells.2.trans (bodyOf_concat_of_ne fun p => ?_).symm⟩
        exact hpiece u due a body p hu hphase
      | exchanging due g m =>
        rw [hphase] at htells
        obtain ⟨t, hname, hmade⟩ := htells
        exact ⟨t, hname, hmade.extend o⟩
    | receive w head' due a effects hphase hscreen =>
      obtain ⟨hmethod, htells⟩ := hw w rfl
      rw [hphase] at htells
      obtain rfl := Option.some.inj hu
      refine ⟨hmethod, ?_, ((hwaits rfl hphase).trans htells.2).symm⟩
      rw [← htells.1]
      exact hscreen
    | dismiss => cases hu
  | grow w due a body p effects ho hphase =>
    obtain ⟨hmethod, htells⟩ := hw w rfl
    rw [hphase] at htells
    obtain rfl := Option.some.inj hu
    refine ⟨hmethod, htells.1, ?_⟩
    rw [ho, bodyOf_concat_piece, htells.2]
  | exchange w due a body i t effects ho hphase hreceived hprepared =>
    obtain ⟨hmethod, htells⟩ := hw w rfl
    rw [hphase] at htells
    obtain rfl := Option.some.inj hu
    rw [htells.2] at hreceived
    exact ⟨hmethod, t, rfl, past, [], a, i, by rw [ho], htells.1, hreceived, hprepared, rfl⟩
  | refuse | conclude | breakOff | abandon => cases hu

namespace Relay

variable {r : Relay} {s : Station} {config : Config}

/-- **What the phase of a visit tells is so**, whatever has happened since it arrived. -/
theorem tells_history (h : r.Tied) (hnew : r.visit? v = none) (head : Http.RequestHead)
    (hspares : Spares v past) (hturn : (r.step (.arrive v head)).1.SendsInTurn v past) :
    ∀ w, ((r.step (.arrive v head)).1.history past).1.visit? v = some w →
      w.method = head.method ∧ Tells r.setup v head past w.phase := by
  -- By induction on the past, with the latest occurrence in front.
  induction past using List.reverseRecOn with
  | nil =>
    have hgiven := arrive_turn h.distinct hnew head
    intro w hw
    change (r.step (.arrive v head)).1.visit? v = some w at hw
    rw [hw] at hgiven
    generalize hnow : some w = now at hgiven
    cases hgiven with
    | aside =>
      obtain rfl := Option.some.inj hnow
      exact ⟨rfl, rfl, rfl⟩
    | receive u head' due a effects hphase hscreen =>
      obtain rfl := Option.some.inj hnow
      obtain rfl := VisitPhase.waiting.inj hphase
      exact ⟨rfl, hscreen, rfl⟩
    | dismiss => cases hnow
  | append_singleton past o ih =>
    obtain ⟨hpast, ho⟩ := hspares.of_append
    have htied := (h.step (.arrive v head) rfl).history fun o ho => (hpast o ho).1
    obtain ⟨hout, hno⟩ := ho o List.mem_cons_self
    have hsetup : ((r.step (.arrive v head)).1.history past).1.setup = r.setup :=
      (setup_history _ past).trans (setup_step r _)
    have hstride := occur_stride htied o hout hno
    rw [hsetup] at hstride
    rw [history_append]
    refine hstride.tells (fun p hp u hu => ?_) (ih hpast hturn.of_append)
    exact hturn past p [] (by rw [hp]) u hu

/-! ## What an exchange carries -/

/-- The exchange of a visit with a gateway carries the visit's message. -/
def Carries (r : Relay) (v : Nat) (g : String) : Prop :=
  ∀ w due m s, r.visit? v = some w → w.phase = .exchanging due g m →
    r.client.station? g = some s → CarriesIn s.target (.ofMessage m) (s.phase? v)

theorem carries_of_hasNoExchange (h : r.HasNoExchange v) : r.Carries v g := by
  intro w due m s hw hphase hs p hp
  rw [h g s hs] at hp
  cases hp

theorem Carries.occur (hcarries : r.Carries v g) (h : r.Tied) (hs : r.client.station? g = some s)
    (hout : o.isOutside = true) (hno : ∀ head, o ≠ .event (.arrive v head)) :
    (r.occur o).1.Carries v g := by
  intro w due m s' hw hphase hs'
  obtain ⟨es, hround, hdoes⟩ := occur_round h o hout hs
  obtain rfl := Option.some.inj (hdoes.1.symm.trans hs')
  rw [(Station.history_target s es).1]
  have hstride := occur_stride h o hout hno
  rw [hw] at hstride
  generalize hold : r.visit? v = old, (r.occur o).2 = effects, hnow : some w = now at hstride
  cases hstride with
  | turn old now effects hturn hpiece =>
    cases hturn with
    | aside =>
      subst hnow
      refine (Station.carries_history (h.slots g s hs) (hcarries w due m s hold hphase hs) es
        fun o' ho' => ?_).1
      obtain ⟨u, due', m', hu, hphase', rfl⟩ := hround.message_of_send ho'
      obtain rfl := Option.some.inj (hold.symm.trans hu)
      rw [hphase, VisitPhase.exchanging.injEq] at hphase'
      rw [hphase'.2.2]
    | receive =>
      obtain rfl := Option.some.inj hnow
      cases hphase
    | dismiss => cases hnow
  | grow =>
    obtain rfl := Option.some.inj hnow
    cases hphase
  | exchange u due' a body i t effects ho hphase' =>
    -- The exchange has just begun, and was sent nothing yet.
    have hnone := h.hasNoExchange_of_phase hold (by simp [hphase']) g s hs
    refine (Station.carries_history (h.slots g s hs) (fun p hp => ?_) es fun o' ho' => ?_).1
    · rw [hnone] at hp
      cases hp
    · obtain ⟨u', due', m', hu, hphase'', -⟩ := hround.message_of_send ho'
      obtain rfl := Option.some.inj (hold.symm.trans hu)
      rw [hphase'] at hphase''
      cases hphase''
  | refuse | conclude | breakOff | abandon => cases hnow

/-- **The exchange of a visit carries the visit's message**, whatever happens. -/
theorem Carries.history (hcarries : r.Carries v g) (h : r.Tied)
    (hs : r.client.station? g = some s) (hspares : Spares v os) : (r.history os).1.Carries v g := by
  induction os generalizing r s with
  | nil => exact hcarries
  | cons o rest ih =>
    obtain ⟨hout, hno⟩ := hspares o List.mem_cons_self
    obtain ⟨es, -, hdoes⟩ := occur_round h o hout hs
    exact ih (hcarries.occur h hs hout hno) (hspares.tied h) hdoes.1 hspares.tail

/-- Where nothing is served, nothing is offered. -/
theorem exists_station_of_offered (h : r.Tied) (hout : o.isOutside = true)
    (hno : ∀ head, o ≠ .event (.arrive v head)) {n : Nat} {w : WireRequest}
    (hmem : .station g (.offered v n w) ∈ (r.occur o).2) : ∃ s, r.client.station? g = some s := by
  have hoffer : ⟨g, n, w⟩ ∈ offersOf v (r.occur o).2 :=
    List.mem_filterMap.mpr ⟨_, hmem, by simp [RelayEffect.offer?]⟩
  -- An offer is made at the station of the event.
  have hat : ∃ e, o = .event (.station g e) ∧ ∀ duration, e ≠ .elapse duration := by
    have hprogress := occur_progress h o hout hno
    generalize r.standing v = σ, (r.occur o).1.standing v = τ, (r.occur o).2 = effects
      at hprogress hoffer
    cases hprogress with
    | stay _ _ _ hnone | close _ _ _ hnone | giveBack _ _ _ _ _ _ hnone =>
      rw [hnone] at hoffer
      cases hoffer
    | first e effects g' n' w' τ he hone =>
      rw [hone] at hoffer
      obtain ⟨rfl, -, -⟩ := Offer.mk.inj (List.mem_singleton.mp hoffer)
      rcases he with rfl | rfl <;> exact ⟨_, rfl, by simp⟩
    | second effects g' n' w' hone =>
      rw [hone] at hoffer
      obtain ⟨rfl, -, -⟩ := Offer.mk.inj (List.mem_singleton.mp hoffer)
      exact ⟨_, rfl, by simp⟩
  obtain ⟨e, rfl, helapse⟩ := hat
  cases hs : r.client.station? g with
  | some s => exact ⟨s, rfl⟩
  | none =>
    have hstep : r.occur (.event (.station g e)) = r.station g e := by
      cases e with
      | elapse duration => exact absurd rfl (helapse duration)
      | _ => rfl
    rw [hstep, station, andThen_eq, effects_atStation, Gateway.Client.step_of_none hs] at hmem
    cases hmem

/-- What is offered for a visit is offered by its exchange. -/
theorem exchanges_of_offered (h : r.Tied) (hout : o.isOutside = true)
    (hno : ∀ head, o ≠ .event (.arrive v head)) {n : Nat} {w : WireRequest}
    (hmem : .station g (.offered v n w) ∈ (r.occur o).2) : r.Exchanges v g := by
  obtain ⟨s, hs⟩ := exists_station_of_offered h hout hno hmem
  obtain ⟨es, hround, hdoes⟩ := occur_round h o hout hs
  have hoffered := mem_effectsAt.mpr hmem
  rw [hdoes.2] at hoffered
  -- The exchange is in progress when its round begins.
  obtain ⟨before, o', after, hes, heffect⟩ := Station.exists_occur_of_mem_history hoffered
  obtain ⟨e, rfl, hcourse⟩ := Station.course_of_effect ((h.slots g s hs).history before) o' heffect
    rfl (by simp)
  obtain ⟨he, hin⟩ := hcourse.of_offered heffect
  obtain ⟨rfl, -, -⟩ := hround.front hes (by rcases he with rfl | rfl <;> rfl)
    (by rcases he with rfl | rfl <;> simp)
  obtain ⟨p, hp⟩ := Option.ne_none_iff_exists'.mp hin
  exact h.owned g s v p hs hp

/-- What is offered is the request of the message that is exchanged. -/
theorem Carries.offered (hcarries : r.Carries v g) (h : r.Tied) (hs : r.client.station? g = some s)
    {u : Visit} {due : Nat} (hu : r.visit? v = some u) (hphase : u.phase = .exchanging due g m)
    (hout : o.isOutside = true) {n : Nat} {w : WireRequest}
    (hmem : .station g (.offered v n w) ∈ (r.occur o).2) :
    wireRequest s.target (.ofMessage m) = .ok w := by
  obtain ⟨es, hround, hdoes⟩ := occur_round h o hout hs
  have hoffered := mem_effectsAt.mpr hmem
  rw [hdoes.2] at hoffered
  refine (Station.carries_history (h.slots g s hs) (hcarries u due m s hu hphase hs) es
    fun o' ho' => ?_).2 n w hoffered
  obtain ⟨u', due', m', hu', hphase', rfl⟩ := hround.message_of_send ho'
  obtain rfl := Option.some.inj (hu.symm.trans hu')
  rw [hphase, VisitPhase.exchanging.injEq] at hphase'
  rw [hphase'.2.2]

/-! ## Targets -/

/-- Each permitted target is served by the station of its name. -/
def Serves (r : Relay) : Prop :=
  ∀ t g, r.engine.registry.find? g = some t → ∃ s, r.client.station? g = some s ∧ s.target = t

/-- What a relay is built with, by its configuration. -/
theorem parts_of_build {config : Config} {certificates : List Gateway.Certificate}
    (hbuild : build config certificates = .ok r) :
    r.engine = .ofConfig config ∧ r.route.maxBodySize = config.limits.maxBodySize.toNat ∧
      r.client = .ofRegistry (.ofConfig config) (.ofConfig config) ∧ r.now = 0 := by
  obtain ⟨routes, -, rfl⟩ := eq_of_build hbuild
  exact ⟨rfl, rfl, rfl, rfl⟩

/-- The engine of a configuration stays, whatever happens. -/
theorem engine_of_build {config : Config} {certificates : List Gateway.Certificate}
    (hbuild : build config certificates = .ok r) (os : List RelayOccurrence) :
    (r.history os).1.engine = .ofConfig config :=
  (engine_history r os).trans (parts_of_build hbuild).1

theorem serves_of_build {config : Config} {certificates : List Gateway.Certificate}
    (hbuild : build config certificates = .ok r) : r.Serves := by
  obtain ⟨hengine, -, hclient, -⟩ := parts_of_build hbuild
  intro t g ht
  rw [hengine] at ht
  refine ⟨.ofTarget t (.ofConfig config), ?_, rfl⟩
  change (Registry.ofConfig config).targets.find? (·.name = g) = some t at ht
  simp only [hclient, Gateway.Client.station?, Gateway.Client.ofRegistry, List.find?_map]
  exact congrArg _ ht

theorem Serves.history (hserves : r.Serves) (h : r.Tied) (hout : ∀ o ∈ os, o.isOutside = true) :
    (r.history os).1.Serves := by
  intro t g ht
  rw [engine_history] at ht
  obtain ⟨s, hs, rfl⟩ := hserves t g ht
  obtain ⟨es, hdoes⟩ := history_does h hs hout
  exact ⟨_, hdoes.1, (Station.history_target s es).1⟩

/-- A relay with the parts of a configuration. -/
structure Follows (r : Relay) (config : Config) : Prop where
  engine : r.engine = .ofConfig config
  bound : r.route.maxBodySize = config.limits.maxBodySize.toNat
  serves : r.Serves

theorem follows_of_build {certificates : List Gateway.Certificate}
    (hbuild : build config certificates = .ok r) : r.Follows config :=
  ⟨(parts_of_build hbuild).1, (parts_of_build hbuild).2.1, serves_of_build hbuild⟩

theorem Follows.history {os : List RelayOccurrence} (hfollows : r.Follows config) (h : r.Tied)
    (hout : ∀ o ∈ os, o.isOutside = true) : (r.history os).1.Follows config where
  engine := (engine_history r os).trans hfollows.engine
  bound := (congrArg (·.route.maxBodySize) (setup_history r os)).trans hfollows.bound
  serves := hfollows.serves.history h hout

/-- A visit that has just arrived has no exchange. -/
theorem hasNoExchange_arrive (h : r.Tied) (hnew : r.visit? v = none) (head : Http.RequestHead) :
    (r.step (.arrive v head)).1.HasNoExchange v := by
  have hkeeps := keeps_append r ⟨v, head.method, .waiting head⟩ hnew
  have hclient := (startWaiting_advances (hkeeps.distinct h.distinct)).1.client
  rw [← step_arrive hnew] at hclient
  intro g s hs
  rw [hclient] at hs
  exact h.hasNoExchange_of_none hnew g s hs

/-- The target of an exchange is served by a station. -/
theorem exists_station_of_made (h : r.Tied) (hserves : r.Serves)
    (hmade : Made r.setup v head past t m) :
    ∃ s, (r.step (.arrive v head)).1.client.station? t.name = some s ∧ s.target = t := by
  obtain ⟨-, -, -, -, -, -, -, -, hfind, -⟩ := hmade.message
  have harrival : ∀ o ∈ [RelayOccurrence.event (.arrive v head)], o.isOutside = true := by
    simp [RelayOccurrence.isOutside, RelayEvent.isOutside]
  refine hserves.history h harrival t t.name ?_
  rw [← hfind]
  exact congrArg (·.engine.registry.find? t.name) (setup_step r (.arrive v head))

/-- **What is offered for a visit was made of its request.** -/
theorem offered_made (h : r.Tied) (hserves : r.Serves) (hnew : r.visit? v = none)
    (head : Http.RequestHead) (hspares : Spares v past)
    (hturn : (r.step (.arrive v head)).1.SendsInTurn v past) (hout : o.isOutside = true)
    (hno : ∀ head, o ≠ .event (.arrive v head)) {n : Nat} {w : WireRequest}
    (hmem : .station g (.offered v n w) ∈
      (((r.step (.arrive v head)).1.history past).1.occur o).2) :
    ∃ t m, Made r.setup v head past t m ∧ t.name = g ∧ wireRequest t (.ofMessage m) = .ok w := by
  have harrived : (r.step (.arrive v head)).1.Tied := h.step _ rfl
  have htied := harrived.history fun o ho => (hspares o ho).1
  obtain ⟨u, due, m, hu, hphase⟩ := exchanges_of_offered htied hout hno hmem
  -- The visit tells the target, and the target its station.
  obtain ⟨-, htells⟩ := tells_history h hnew head hspares hturn u hu
  rw [hphase] at htells
  obtain ⟨t, rfl, hmade⟩ := htells
  obtain ⟨s, hs, hst⟩ := exists_station_of_made h hserves hmade
  have hcarries : ((r.step (.arrive v head)).1.history past).1.Carries v t.name :=
    (carries_of_hasNoExchange (hasNoExchange_arrive h hnew head)).history harrived hs hspares
  obtain ⟨es, hdoes⟩ := history_does harrived hs fun o ho => (hspares o ho).1
  have hwire := hcarries.offered htied hdoes.1 hu hphase hout hmem
  rw [(Station.history_target s es).1, hst] at hwire
  exact ⟨t, m, hmade, rfl, hwire⟩

/-! ## A relay that is built -/

/-- A configuration of one gateway, which is chosen where a request gives no name. -/
def sampleConfig : Config where
  gateways := [{ name := "gateway", endpoint := "http://[::1]" }]
  routing := { defaultGateway := some "gateway" }

/-- The relay that is built from it. -/
def sampleBuilt : Relay :=
  match build sampleConfig [] with
  | .ok r => r
  | .error _ => sampleRelay

theorem build_sampleConfig : build sampleConfig [] = .ok sampleBuilt := by
  have hok : (build sampleConfig []).isOk = true := by decide +kernel
  unfold sampleBuilt
  cases h : build sampleConfig [] with
  | ok r => rfl
  | error fault =>
    rw [h] at hok
    cases hok

end Relay

end ObliviousRelay
