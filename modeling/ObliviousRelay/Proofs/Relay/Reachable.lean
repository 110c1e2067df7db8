import ObliviousRelay.Proofs.Forwarding.Protocol
import ObliviousRelay.Proofs.Http.Routes
import ObliviousRelay.Proofs.Relay.Loaded

/-!
# A gateway's own path

A post on the path that ends with a gateway's name goes to this gateway, whatever else is configured
and whatever the other header fields say. Routes, selector, registry and policy agree on it, and the
visit keeps it from its turn to its exchange. One name is taken: under the root, the path of the
liveness probe.

- `Relay.gatewayPath` is the path of a gateway, `Relay.Posts` a request that is posted there.
- `Relay.OnItsWay` is what such a visit does wherever it stands; `Relay.own_path_reaches`.
- `Relay.start_health` tells who answers on the path that is taken, `Relay.health_unreachable` that
  a valid configuration may take it.
-/

namespace ObliviousRelay

variable {c : Config} {g : Config.Gateway} {head : Http.RequestHead} {t : Target} {r : Relay}
  {v : Nat}

/-! ## From a head and a body to an exchange -/

/-- A visit whose head is admitted is not answered at its turn. -/
theorem Turn.not_answered {s : Setup} {w : Visit} {w' : Option Visit} {effects : List RelayEffect}
    (h : Turn s v (some w) effects w') (hphase : w.phase = .waiting head)
    (hroute : s.routes.find? head.method head.path = some .relay) {a : Http.Admission}
    (hscreen : Http.Inbound.screen s.route head = .ok a) (response : Http.Response) :
    .answered v response ∉ effects := by
  intro hmem
  have hvoice := mem_voiced_of_answered hmem
  cases h with
  | aside _ _ hnone => simp [hnone] at hvoice
  | receive _ _ _ _ _ _ _ hone => simp [hone] at hvoice
  | dismiss _ head' _ _ hphase' hresponse =>
    obtain rfl := VisitPhase.waiting.inj (hphase.symm.trans hphase')
    obtain ⟨f, hrefused, -⟩ := hresponse hroute
    cases hscreen.symm.trans hrefused

namespace Relay

/-! ## Requests on a gateway's path -/

/-- The path of a gateway: its name as one more segment of the route. -/
def gatewayPath (route name : String) : String :=
  if route = "/" then "/" ++ name else route ++ "/" ++ name

/-- A request that is posted to a gateway on its own path: declared as an encapsulated request, and
not declared longer than the relay's bound, if a length is declared. -/
structure Posts (c : Config) (g : Config.Gateway) (head : Http.RequestHead) : Prop where
  method : head.method = "POST"
  path : head.path = gatewayPath c.routing.pathPrefix g.name
  declared : (Http.Inbound.declaredType? head.fields).isSome = true
  length : Http.Inbound.declaresTooMuch c.limits.maxBodySize.toNat head.fields = false

/-- The liveness probe takes the path of this name. -/
def IsTaken (c : Config) (g : Config.Gateway) : Prop :=
  c.routing.pathPrefix = "/" ∧ g.name = "health"

theorem toList_gatewayPath {route : String} (h : Config.isRoute route = true) (name : String) :
    (gatewayPath route name).toList = Selector.routeBase route ++ '/' :: name.toList := by
  unfold gatewayPath
  split
  · next hroot =>
    subst hroot
    rw [String.toList_append]
    rfl
  · next hroot =>
    rw [Http.routeBase_of_isRoute h hroot, String.toList_append, String.toList_append,
      List.append_assoc]
    rfl

theorem segment_of_isName {name : String} (h : Config.isName name = true) :
    name.toList ≠ [] ∧ '/' ∉ name.toList := by
  simpa [Config.isName, String.toList_eq_nil_iff] using h

/-- The relay's handler takes what is posted to a gateway on its own path. -/
theorem Posts.find? (h : Posts c g head) (hvalid : c.problems = []) (hg : g ∈ c.gateways)
    (htaken : ¬ IsTaken c g) {routes : Http.Routes} (hserves : routes.Serves c.routing.pathPrefix) :
    routes.find? head.method head.path = some .relay := by
  have hroute := Config.isRoute_of_problems hvalid
  obtain ⟨hne, hname⟩ := segment_of_isName (Config.isName_of_problems hvalid hg)
  rw [h.method, hserves.find?_post_iff hroute, hserves.isRelay_iff]
  refine ⟨.inr ⟨g.name.toList, hne, hname, ?_⟩, ?_⟩
  · rw [h.path, toList_gatewayPath hroute]
  · rintro ⟨hroot, hhealth⟩
    rw [h.path, gatewayPath, if_pos hroot] at hhealth
    exact htaken ⟨hroot, String.append_right_inj _ |>.mp hhealth⟩

/-- Its head is admitted, and asks for the gateway by name. -/
theorem Posts.screen (h : Posts c g head) (hvalid : c.problems = []) (hg : g ∈ c.gateways)
    {route : Http.Route} (hroute : route.pathPrefix = c.routing.pathPrefix)
    (hbound : route.maxBodySize = c.limits.maxBodySize.toNat) :
    ∃ declared, Http.Inbound.screen route head = .ok ⟨.named g.name, declared⟩ := by
  obtain ⟨hne, hname⟩ := segment_of_isName (Config.isName_of_problems hvalid hg)
  obtain ⟨declared, hdeclared⟩ := Option.isSome_iff_exists.mp h.declared
  have hselector : Selector.ofRequest? route.pathPrefix head.path head.fields
      route.selectorHeader = some (.named g.name) := by
    rw [Selector.ofRequest?_eq_some_iff, hroute, h.path,
      toList_gatewayPath (Config.isRoute_of_problems hvalid)]
    exact ⟨some g.name.toList, .named hne hname, by rw [Selector.ofSegment, String.ofList_toList]⟩
  refine ⟨declared, ?_⟩
  rw [Http.Inbound.screen, if_neg (by simp [h.method]), hselector, hdeclared, hbound]
  simp [h.length]

/-! ## On the way -/

/-- A relay with the engine, the route and the routes of a configuration. -/
structure IsSetUp (c : Config) (r : Relay) : Prop where
  engine : r.engine = .ofConfig c
  pathPrefix : r.route.pathPrefix = c.routing.pathPrefix
  bound : r.route.maxBodySize = c.limits.maxBodySize.toNat
  serves : r.routes.Serves c.routing.pathPrefix

theorem isSetUp_of_build {certificates : List Gateway.Certificate}
    (hbuild : build c certificates = .ok r) (hvalid : c.problems = [])
    (hliteral : Http.RoutePattern.IsLiteral c.routing.pathPrefix) : IsSetUp c r := by
  obtain ⟨routes, hroutes, rfl⟩ := eq_of_build hbuild
  obtain ⟨served, hserved, hserves⟩ :=
    Http.Routes.serves_of_literal (Config.isRoute_of_problems hvalid) hliteral
  obtain rfl := Option.some.inj (hroutes.symm.trans hserved)
  exact ⟨rfl, rfl, rfl, hserves⟩

theorem IsSetUp.history (h : IsSetUp c r) (os : List RelayOccurrence) :
    IsSetUp c (r.history os).1 := by
  have hsetup := setup_history r os
  have hengine : (r.history os).1.engine = r.engine := congrArg Setup.engine hsetup
  have hroute : (r.history os).1.route = r.route := congrArg Setup.route hsetup
  have hroutes : (r.history os).1.routes = r.routes := congrArg Setup.routes hsetup
  exact ⟨hengine ▸ h.engine, hroute ▸ h.pathPrefix, hroute ▸ h.bound, hroutes ▸ h.serves⟩

/-- A visit on its way to a gateway's exchange, of whose body these pieces have come. -/
structure OnItsWay (c : Config) (g : Config.Gateway) (t : Target) (r : Relay) (v : Nat)
    (came : Http.Body) (w : Visit) : Prop where
  /-- When its turn comes, it is not answered: its body is read. -/
  turn : ∀ head, w.phase = .waiting head → ∃ a,
    r.start w head = (r.setPhase v (.uploading (r.now + r.inboundTimeout) a []), [.receiving v])
  /-- While it waits, nothing from outside answers it. Only its client may end the wait. -/
  patience : ∀ head, w.phase = .waiting head → ∀ o response, o.isOutside = true →
    (∀ head, o ≠ .event (.arrive v head)) → o ≠ .event (.leave v) →
    .answered v response ∉ (r.occur o).2
  /-- What is read of its body is what came. -/
  read : ∀ due a body, w.phase = .uploading due a body → body = came
  /-- It reads on as long as its body stays within the bound. -/
  piece : ∀ due a p, w.phase = .uploading due a came →
    ((came ++ [p]).collect c.limits.maxBodySize.toNat).isSome = true →
    r.step (.piece v p) = (r.setPhase v (.uploading due a (came ++ [p])), [])
  /-- Once its body is complete, not empty and within both bounds, it becomes an exchange with the
  gateway, at whose station a lease is asked for. -/
  whole : ∀ due a chunks, w.phase = .uploading due a came → came = chunks.map .bytes →
    0 < (joined chunks).size → (joined chunks).size ≤ c.limits.maxBodySize.toNat →
    (joined chunks).size ≤ t.maxBodySize →
    r.step (.uploaded v) =
      (r.setPhase v (.exchanging due g.name ⟨.request, joined chunks⟩)).station g.name
        (.request v t.requestTimeout)
  /-- It is an exchange with no other gateway. -/
  exchange : ∀ due g' m, w.phase = .exchanging due g' m → g' = g.name

section OnItsWay

variable {w : Visit} {past : List RelayOccurrence} {came : Http.Body} {due : Nat}
  {a : Http.Admission}

theorem start_posted (h : IsSetUp c r) (hvalid : c.problems = []) (hg : g ∈ c.gateways)
    (htaken : ¬ IsTaken c g) (hposts : Posts c g head) : ∃ a, r.start w head =
      (r.setPhase w.id (.uploading (r.now + r.inboundTimeout) a []), [.receiving w.id]) := by
  obtain ⟨declared, hscreen⟩ := hposts.screen hvalid hg h.pathPrefix h.bound
  refine ⟨⟨.named g.name, declared⟩, ?_⟩
  rw [start, hposts.find? hvalid hg htaken h.serves]
  simp only [hscreen]

theorem step_piece_within (h : IsSetUp c r) (hw : r.visit? w.id = some w)
    (hphase : w.phase = .uploading due a came) {p : Http.Piece}
    (hwithin : ((came ++ [p]).collect c.limits.maxBodySize.toNat).isSome = true) :
    r.step (.piece w.id p) = (r.setPhase w.id (.uploading due a (came ++ [p])), []) := by
  obtain ⟨bytes, hbytes⟩ := Option.isSome_iff_exists.mp hwithin
  simp only [step, hw, hphase, receivePiece, h.bound, hbytes]

theorem step_uploaded_whole (h : IsSetUp c r) (hw : r.visit? w.id = some w)
    {chunks : List ByteArray} (hphase : w.phase = .uploading due a (chunks.map .bytes))
    (htype : MediaType.parse? a.declaredType = some .request) (hpos : 0 < (joined chunks).size)
    (hbound : (joined chunks).size ≤ c.limits.maxBodySize.toNat)
    (hlength : (joined chunks).size ≤ t.maxBodySize) (haccepts : t.accepts .request = true)
    (hresolve : (Registry.ofConfig c).resolve a.selector = .ok t) {s : Gateway.Station}
    (hs : r.client.stationFor t = .ok s) :
    r.step (.uploaded w.id) =
      (r.setPhase w.id (.exchanging due t.name ⟨.request, joined chunks⟩)).station t.name
        (.request w.id t.requestTimeout) := by
  have hreceived := Http.Inbound.receive_chunks htype hpos (h.bound ▸ hbound)
  have hprepared : r.engine.prepare a.selector ⟨.request, joined chunks⟩ = .ok t := by
    rw [h.engine, Engine.prepare_eq_ok]
    have htype : MediaType.request ∈ t.acceptedMediaTypes := by simpa [Target.accepts] using haccepts
    exact ⟨hresolve, Target.check_eq_ok_iff.mpr ⟨htype, hlength⟩⟩
  simp only [step, hw, hphase, exchange, hreceived, hprepared, hs, bind, Except.bind, pure,
    Except.pure]

theorem patience_of_posted (h : IsSetUp c r) (hvalid : c.problems = []) (hg : g ∈ c.gateways)
    (htaken : ¬ IsTaken c g) (hposts : Posts c g head) (htied : r.Tied)
    (hw : r.visit? w.id = some w) (hphase : w.phase = .waiting head) {o : RelayOccurrence}
    (hout : o.isOutside = true) (hno : ∀ head, o ≠ .event (.arrive w.id head))
    (hleave : o ≠ .event (.leave w.id)) (response : Http.Response) :
    .answered w.id response ∉ (r.occur o).2 := by
  obtain ⟨declared, hscreen⟩ := hposts.screen hvalid hg h.pathPrefix h.bound
  have hstride := occur_stride htied o hout hno
  rw [hw] at hstride
  generalize hold : some w = old, (r.occur o).2 = effects, (r.occur o).1.visit? w.id = now
    at hstride ⊢
  -- A visit that waits has its turn or leaves.
  cases hstride with
  | turn _ _ _ hgiven =>
    subst hold
    exact hgiven.not_answered hphase (hposts.find? hvalid hg htaken h.serves) hscreen response
  | abandon u _ hgone =>
    obtain rfl := Option.some.inj hold
    rcases hgone with hrunning | hgone
    · simp [Visit.isRunning, hphase] at hrunning
    · exact absurd hgone hleave
  | breakOff u _ hrunning =>
    obtain rfl := Option.some.inj hold
    simp [Visit.isRunning, hphase] at hrunning
  | grow u _ _ _ _ _ _ hphase' | refuse u _ _ _ _ _ hphase' | exchange u _ _ _ _ _ _ _ hphase'
  | conclude u _ _ _ _ _ hphase' =>
    obtain rfl := Option.some.inj hold
    cases hphase.symm.trans hphase'

/-- A visit that was posted is on its way, if its phase tells its past. -/
theorem onItsWay_of_tells (h : IsSetUp c r) (hvalid : c.problems = []) (hg : g ∈ c.gateways)
    (haccepts : .request ∈ g.acceptedMediaTypes) (htaken : ¬ IsTaken c g)
    (hposts : Posts c g head) (ht : Target.ofGateway c g = .ok t) {s : Gateway.Station}
    (hs : r.client.stationFor t = .ok s) (htied : r.Tied) (hw : r.visit? w.id = some w)
    (htells : Tells r.setup w.id head past w.phase) :
    OnItsWay c g t r w.id (bodyOf w.id past) w := by
  have hname : t.name = g.name := Target.name_of_ofGateway ht
  have haccepts' : t.accepts .request = true := by
    obtain ⟨url, -, rfl⟩ := Target.eq_of_ofGateway ht
    simpa [Target.accepts] using haccepts
  have hresolve : ∀ u, (Registry.ofConfig c).resolve (.named g.name) = .ok u ↔
      ∃ g' ∈ c.gateways, g'.name = g.name ∧ Target.ofGateway c g' = .ok u :=
    fun u => (Config.accepted_of_problems hvalid).resolve_named
  obtain ⟨declared, hscreen⟩ := hposts.screen hvalid hg h.pathPrefix h.bound
  -- Whoever was admitted asks for the gateway by name.
  have hadmitted : ∀ a, Http.Inbound.screen r.route head = .ok a →
      a.selector = .named g.name ∧ MediaType.parse? a.declaredType = some .request := by
    intro a ha
    obtain rfl := Except.ok.inj (hscreen.symm.trans ha)
    exact ⟨rfl, (Http.Inbound.screen_eq_ok_iff.mp ha).declared.2⟩
  constructor
  · intro head' hphase
    rw [hphase] at htells
    rw [htells.1]
    exact start_posted h hvalid hg htaken hposts
  · intro head' hphase o response hout hno hleave
    rw [hphase] at htells
    rw [htells.1] at hphase
    exact patience_of_posted h hvalid hg htaken hposts htied hw hphase hout hno hleave response
  · intro due a body hphase
    rw [hphase] at htells
    exact htells.2
  · exact fun due a p hphase hwithin => step_piece_within h hw hphase hwithin
  · intro due a chunks hphase hcame hpos hbound hlength
    rw [hphase] at htells
    obtain ⟨hselector, htype⟩ := hadmitted a htells.1
    rw [hcame] at hphase
    rw [← hname]
    exact step_uploaded_whole h hw hphase htype hpos hbound hlength haccepts'
      (hselector ▸ (hresolve t).mpr ⟨g, hg, rfl, ht⟩) hs
  · intro due g' m hphase
    rw [hphase] at htells
    obtain ⟨t', rfl, upload, more, a, i, -, hscreen', hreceived, hprepared, -⟩ := htells
    -- The message was prepared for the target of the selector that was admitted.
    obtain ⟨htarget, -⟩ := (Engine.prepare_eq_ok _ _ _ t').mp hprepared
    obtain ⟨hselector, htype⟩ := hadmitted a hscreen'
    obtain ⟨chunks, -, -, -, rfl⟩ := (Http.Inbound.receive_eq_ok_iff htype).mp hreceived
    rw [hselector] at htarget
    change r.engine.registry.resolve _ = _ at htarget
    rw [h.engine] at htarget
    obtain ⟨g', -, hsame, ht'⟩ := (hresolve t').mp htarget
    exact (Target.name_of_ofGateway ht').trans hsame

end OnItsWay

/-- **A gateway is reached by its own path.** Let a relay be built from a valid configuration with a
literal route, and let one of its gateways accept requests and not bear the name that the liveness
probe takes. Whatever has happened before, a request that is posted to the gateway on its own path
is not answered when it arrives, and is on its way to the gateway's exchange as long as it is there,
whatever happens in the meantime. -/
theorem own_path_reaches {certificates : List Gateway.Certificate} {r₀ : Relay}
    (hbuild : build c certificates = .ok r₀) (hvalid : c.problems = [])
    (hliteral : Http.RoutePattern.IsLiteral c.routing.pathPrefix) (hg : g ∈ c.gateways)
    (haccepts : .request ∈ g.acceptedMediaTypes) (htaken : ¬ IsTaken c g)
    (before : List RelayOccurrence) (hbefore : ∀ o ∈ before, o.isOutside = true)
    (hnew : (r₀.history before).1.visit? v = none) (hposts : Posts c g head)
    (past : List RelayOccurrence) (hspares : Spares v past)
    (hturn : ((r₀.history before).1.step (.arrive v head)).1.SendsInTurn v past) :
    ∃ t, Target.ofGateway c g = .ok t ∧
      let arrival := (r₀.history before).1.step (.arrive v head)
      (∀ response, .answered v response ∉ arrival.2) ∧
      ∀ w, (arrival.1.history past).1.visit? v = some w →
        OnItsWay c g t (arrival.1.history past).1 v (bodyOf v past) w := by
  have haccepted := Config.accepted_of_problems hvalid
  obtain ⟨t, ht⟩ := haccepted.exists_target hg
  have hfirst := isSetUp_of_build hbuild hvalid hliteral
  have hbuilt := hfirst.history before
  have htied : (r₀.history before).1.Tied := (isFresh_of_build hbuild).tied.history hbefore
  refine ⟨t, ht, fun response hmem => ?_, fun w hw => ?_⟩
  · obtain ⟨declared, hscreen⟩ := hposts.screen hvalid hg hbuilt.pathPrefix hbuilt.bound
    exact (arrive_turn htied.distinct hnew head).not_answered rfl
      (hposts.find? hvalid hg htaken hbuilt.serves) hscreen response hmem
  · obtain rfl := id_of_visit? hw
    obtain ⟨hmethod, htells⟩ := tells_history htied hnew head hspares hturn w hw
    -- The relay after all of this is the one that was built, after a longer history.
    obtain ⟨os, hos⟩ : ∃ os, (((r₀.history before).1.step (.arrive w.id head)).1.history past).1 =
        (r₀.history os).1 := by
      refine ⟨before ++ .event (.arrive w.id head) :: past, ?_⟩
      rw [history_append]
      rfl
    rw [hos] at hw ⊢
    have hsetup : (r₀.history before).1.setup = (r₀.history os).1.setup :=
      (setup_history r₀ before).trans (setup_history r₀ os).symm
    rw [hsetup] at htells
    have hresolve : (r₀.history os).1.engine.registry.resolve (.named g.name) = .ok t := by
      rw [engine_of_build hbuild]
      exact haccepted.resolve_named.mpr ⟨g, hg, rfl, ht⟩
    obtain ⟨s, hs, -⟩ := stationFor_history hbuild os hresolve
    have hafter : (r₀.history os).1.Tied :=
      hos ▸ (htied.step (.arrive w.id head) rfl).history fun o ho => (hspares o ho).1
    exact onItsWay_of_tells (hfirst.history os) hvalid hg haccepts htaken hposts ht hs hafter hw
      htells

/-- With a piece of its body there, the message goes to the gateway of the path. -/
theorem own_path_reaches_sample :
    let head : Http.RequestHead := { sampleHead with path := "/gateway/gateway" }
    let r := ((sampleBuilt.step (.arrive 0 head)).1.history
      [.event (.piece 0 (.bytes ⟨#[1]⟩))]).1
    r.step (.uploaded 0) =
      (r.setPhase 0 (.exchanging 21000 "gateway" ⟨.request, ⟨#[1]⟩⟩)).station "gateway"
        (.request 0 10000) := by
  intro head r
  let g : Config.Gateway := { name := "gateway", endpoint := "http://[::1]" }
  -- The piece comes from outside and in its turn, while the visit runs.
  have hspares : Spares 0 [.event (.piece 0 (.bytes ⟨#[1]⟩))] := by
    simp [Spares, RelayOccurrence.isOutside, RelayEvent.isOutside]
  have hturn : (sampleBuilt.step (.arrive 0 head)).1.SendsInTurn 0
      [.event (.piece 0 (.bytes ⟨#[1]⟩))] := by
    refine (sendsInTurn_of_no_piece (by simp)).cons fun p hp w hw => ?_
    have hrunning : ((sampleBuilt.step (.arrive 0 head)).1.visit? 0).all (·.isRunning) = true := by
      decide +kernel
    rw [hw] at hrunning
    exact hrunning
  have hposts : Posts sampleConfig g head :=
    ⟨rfl, by decide, by decide +kernel, by decide +kernel⟩
  obtain ⟨t, ht, -, hway⟩ := own_path_reaches (g := g) build_sampleConfig (by decide +kernel)
    (by decide) (by decide) (by decide) (fun h => absurd h.2 (by decide)) [] (by simp) rfl hposts _
    hspares hturn
  -- Its limit was set on arrival.
  have hw : r.visit? 0 = some ⟨0, "POST", .uploading 21000
      ⟨.named "gateway", "message/ohttp-req"⟩ [.bytes ⟨#[1]⟩]⟩ := by
    decide +kernel
  obtain ⟨url, -, rfl⟩ := Target.eq_of_ofGateway ht
  have hlength : (joined [⟨#[1]⟩]).size ≤ sampleConfig.limits.maxBodySize.toNat := by decide
  exact (hway _ hw).whole 21000 _ [⟨#[1]⟩] rfl rfl (by decide) hlength hlength

/-! ## The path that is taken -/

/-- **The liveness probe answers on its path**, whoever bears its name: under the root, a post to a
gateway of this name is refused by the probe, and reaches nobody. -/
theorem start_health (h : IsSetUp c r) (htaken : IsTaken c g) (hposts : Posts c g head) (w : Visit) :
    ∃ response, r.start w head = r.reply w response ∧ response.status = .methodNotAllowed := by
  have hpath : head.path = Http.Routes.healthPath := by
    rw [hposts.path, htaken.1, htaken.2]
    decide
  have hshared : r.routes.isShared ≠ true := by
    rw [Ne, h.serves.shared, htaken.1]
    decide
  refine ⟨.probe "POST" r.engine.registry.size, ?_, rfl⟩
  rw [start, Http.Routes.find?, if_pos hpath, hposts.method]
  simp [hshared]

/-- A gateway of this name in a valid configuration, and what is answered on its path: the probe
refuses every request that is posted to the gateway, after whatever history. -/
theorem health_unreachable :
    let g : Config.Gateway := { name := "health", endpoint := "http://[::1]" }
    let c : Config := { gateways := [g], routing := { pathPrefix := "/" } }
    let head : Http.RequestHead := { sampleHead with path := "/health" }
    c.problems = [] ∧ Http.RoutePattern.IsLiteral c.routing.pathPrefix ∧ Posts c g head ∧
      (build c []).toOption.map (fun r => (r.step (.arrive 0 head)).2) =
        some [.answered 0 .unprobed] ∧
      ∀ r, build c [] = .ok r → ∀ os head', Posts c g head' → ∀ w, ∃ response,
        (r.history os).1.start w head' = (r.history os).1.reply w response ∧
          response.status = .methodNotAllowed := by
  intro g c head
  have hvalid : c.problems = [] := by decide +kernel
  have hliteral : Http.RoutePattern.IsLiteral c.routing.pathPrefix := by decide
  refine ⟨hvalid, hliteral, ⟨rfl, by decide, by decide +kernel, by decide +kernel⟩,
    by decide +kernel, fun r hbuild os head' hposts w => ?_⟩
  -- The routes stay those of the configuration, and the name stays taken.
  exact start_health ((isSetUp_of_build hbuild hvalid hliteral).history os) ⟨rfl, rfl⟩ hposts w

end Relay

end ObliviousRelay
