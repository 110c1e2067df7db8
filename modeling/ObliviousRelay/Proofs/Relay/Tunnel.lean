import ObliviousRelay.Proofs.Forwarding.Verdict
import ObliviousRelay.Proofs.Relay.Story

/-!
# Bytes pass unchanged, and within bounds

What is offered to a gateway is the body of the client's request, byte by byte, and what is answered
with success is the body of the gateway's reply. Both are not empty and within the configured bounds.

- `Relay.Heard`: a reply came from the gateway, a head and then a body; `Relay.heard_of_reading`.
- `Forwarded` and `Returned`: what holds of a request that is offered, of an answer with success.
- `Relay.bytes_pass_unchanged`: all of it, for every relay that is built.
-/

namespace ObliviousRelay

open Gateway (Occurrence Reply Station WireRequest wireRequest)
open Gateway.Station (bodyTold pieceTold)

/-! ## What a station is told -/

/-- What an occurrence tells one station. -/
def RelayOccurrence.at? (g : String) : RelayOccurrence → Option Occurrence
  | .event (.station g' e) => if g' = g then some (.event e) else none
  | _ => none

/-- What one station is told in the course of some occurrences. -/
def wordsAt (g : String) (os : List RelayOccurrence) : List Occurrence := os.filterMap (·.at? g)

@[simp] theorem wordsAt_append (g : String) (os more : List RelayOccurrence) :
    wordsAt g (os ++ more) = wordsAt g os ++ wordsAt g more :=
  List.filterMap_append

variable {r : Relay} {s : Station} {g : String} {v : Nat} {o : RelayOccurrence}
  {es : List Occurrence} {past : List RelayOccurrence} {reply : Reply}

theorem pieceTold_of_isOwn {e : Gateway.Event} (h : e.isOwn = true) :
    pieceTold v (.event e) = .empty := by
  cases e <;> first | rfl | cases h

theorem bodyTold_of_isOwn (h : ∀ o ∈ es, ∃ e, o = .event e ∧ e.isOwn = true) :
    bodyTold v es = .empty := by
  induction es using List.reverseRecOn with
  | nil => rfl
  | append_singleton es o ih =>
    obtain ⟨e, rfl, hown⟩ := h o (by simp)
    rw [Station.bodyTold_concat, ih fun o' ho' => h o' (by simp [ho']), pieceTold_of_isOwn hown,
      ByteArray.append_empty]

/-- A round tells a station no more of a reply than the occurrence does. -/
theorem Round.bodyTold_eq (h : Round r g s o es) : bodyTold v es = bodyTold v (wordsAt g [o]) := by
  have hself : ∀ e, wordsAt g [.event (.station g e)] = [.event e] := fun e => by
    simp [wordsAt, RelayOccurrence.at?]
  cases h with
  | idle o hdelay hword =>
    -- What is not told is the relay's own doing, or a single station's clock.
    symm
    cases o with
    | delay => rfl
    | event ev =>
      cases ev with
      | station g' e =>
        by_cases hg : g' = g
        · subst hg
          rw [hself]
          cases hown : e.isOwn with
          | true => exact bodyTold_of_isOwn (by simp [hown])
          | false =>
            cases e with
            | elapse => rfl
            | _ => exact absurd rfl (hword _ hown (by simp))
        · simp [wordsAt, RelayOccurrence.at?, hg, bodyTold]
      | _ => rfl
  | told e more hown helapse hreaction =>
    rw [hself, ← List.singleton_append, Station.bodyTold_append,
      bodyTold_of_isOwn (isOwn_of_reaction hreaction), ByteArray.append_empty]
  | asked v' selector m t more hprepared hname hnone hmore =>
    exact bodyTold_of_isOwn (by rcases hmore with rfl | rfl <;> simp [Gateway.Event.isOwn])
  | dropped v' o ho =>
    rcases ho with rfl | rfl <;> exact bodyTold_of_isOwn (by simp [Gateway.Event.isOwn])
  | elapse | delay => rfl

/-! ## Replies -/

namespace Relay

/-- A reply to a visit has been heard so far: its head came from the gateway to the request that was
on offer, and then this body. -/
def Heard (r : Relay) (past : List RelayOccurrence) (g : String) (v : Nat) (reply : Reply) : Prop :=
  ∃ before after s c t w again,
    past = before ++ .event (.station g (.answered v reply.status reply.contentType)) :: after ∧
    (r.history before).1.client.station? g = some s ∧ s.phase? v = some (.offering c t w again) ∧
    reply.body = bodyTold v (wordsAt g after)

theorem Heard.extend (h : r.Heard past g v reply) (o : RelayOccurrence) :
    r.Heard (past ++ [o]) g v { reply with body := reply.body ++ bodyTold v (wordsAt g [o]) } := by
  obtain ⟨before, after, s, c, t, w, again, rfl, hs, hp, hbody⟩ := h
  refine ⟨before, after ++ [o], s, c, t, w, again, by simp, hs, hp, ?_⟩
  rw [wordsAt_append, Station.bodyTold_append, hbody]

/-- **What has been read of a reply was heard from the gateway**, unless its deadline has passed. -/
theorem heard_of_reading (h : r.Tied) (hnew : r.HasNoExchange v) {s₀ : Station}
    (hs₀ : r.client.station? g = some s₀) (hout : ∀ o ∈ past, o.isOutside = true)
    (hs : (r.history past).1.client.station? g = some s) {c : Gateway.Connection}
    {t : Gateway.Terms}
    (hp : s.phase? v = some (.reading c t reply.status reply.contentType reply.body)) :
    t.deadline.moment < s.now ∨ r.Heard past g v reply := by
  -- By induction on the past, with the latest occurrence in front.
  induction past using List.reverseRecOn generalizing s c t reply with
  | nil =>
    rw [hnew g s hs] at hp
    cases hp
  | append_singleton past o ih =>
    have hpast : ∀ o ∈ past, o.isOutside = true := fun o ho => hout o (List.mem_append_left _ ho)
    obtain ⟨es₀, hbefore⟩ := history_does h hs₀ hpast
    have htied := h.history hpast
    obtain ⟨es, hround, hdoes⟩ := occur_round htied o (hout o (by simp)) hbefore.1
    rw [history_append] at hs
    obtain rfl := Option.some.inj (hdoes.1.symm.trans hs)
    rcases Station.told_of_reading (htied.slots g _ hbefore.1) es hp with hlate | htold
    · exact .inl hlate
    · right
      cases htold with
      | whole before after c t w again hes hoffering hbody =>
        obtain ⟨rfl, rfl, hafter⟩ := hround.front hes rfl (by simp)
        refine ⟨past, [], _, c, t, w, again, rfl, hbefore.1, hoffering, ?_⟩
        rw [hbody, bodyTold_of_isOwn hafter]
        rfl
      | more c t read hread hnow hbody =>
        have hheard : _ ∨ r.Heard past g v { reply with body := read } := ih hpast hbefore.1 hread
        have hmore := (hheard.resolve_left (Nat.not_lt.mpr hnow)).extend o
        rw [← hround.bodyTold_eq] at hmore
        simp only [← hbody] at hmore
        exact hmore

/-- A visit is answered with a reply that was heard. -/
theorem heard_of_replied (h : r.Tied) (hnew : r.HasNoExchange v) {s₀ : Station}
    (hs₀ : r.client.station? g = some s₀) (hpast : ∀ o ∈ past, o.isOutside = true)
    (hout : o.isOutside = true) {reused : Bool}
    (hmem : .station g (.replied v reply reused) ∈ ((r.history past).1.occur o).2) :
    r.Heard past g v reply := by
  obtain ⟨es₀, hbefore⟩ := history_does h hs₀ hpast
  have htied := h.history hpast
  have hslots := htied.slots g _ hbefore.1
  obtain ⟨es, hround, hdoes⟩ := occur_round htied o hout hbefore.1
  have hreplied := mem_effectsAt.mpr hmem
  rw [hdoes.2] at hreplied
  obtain ⟨before, o', after, hes, heffect⟩ := Station.exists_occur_of_mem_history hreplied
  obtain ⟨e, rfl, hcourse⟩ :=
    Station.course_of_effect (hslots.history before) o' heffect rfl (by simp)
  obtain ⟨rfl, c, t, hp, hnow⟩ := hcourse.of_replied heffect
  obtain ⟨rfl, -, -⟩ := hround.front hes rfl (by simp)
  exact (heard_of_reading h hnew hs₀ hpast hbefore.1 hp).resolve_left (Nat.not_lt.mpr hnow)

end Relay

/-! ## Answers -/

/-- A failure is never answered with success. -/
theorem Http.statusOf_ne_ok (f : Failure) : statusOf f ≠ .ok := by
  cases f with
  | malformedMessage fault => cases fault <;> decide
  | gatewayUnreachable | gatewayError => exact (by decide : Status.badGateway ≠ .ok)
  | _ => decide

theorem Http.Response.status_forMethod (method : String) (response : Response) :
    (response.forMethod method).status = response.status := by
  unfold forMethod
  split <;> rfl

/-- An answer has the status of the response that it was made from. -/
theorem Http.Response.status_of_answered {v u : Nat} {method : String} {response answer : Response}
    (h : RelayEffect.answered v response ∈ [RelayEffect.answered u (answer.forMethod method)]) :
    response.status = answer.status := by
  obtain ⟨-, rfl⟩ := RelayEffect.answered.inj (List.mem_singleton.mp h)
  exact status_forMethod method answer

/-- A reply that passes is a successful one, and its body becomes the message. -/
theorem Engine.of_interpret {e : Engine} {m : Message} (h : e.interpret reply = .ok m) :
    reply.status.isSuccess = true ∧
      MediaType.parse? (reply.contentType.getD "") = some .response ∧ m = ⟨.response, reply.body⟩ ∧
      0 < reply.body.size ∧ reply.body.size ≤ e.maxResponseSize := by
  obtain ⟨hpasses, rfl⟩ := interpret_eq_ok_iff.mp h
  exact ⟨Reply.isSuccess_iff.mpr hpasses.success, Reply.isDeclared_iff.mp hpasses.declared, rfl,
    hpasses.nonempty, hpasses.bounded⟩

/-- Only a reply that passes is answered with success. -/
theorem Visit.of_answer {w : Visit} {result : Except Failure Message} {response : Http.Response}
    (h : RelayEffect.answered v response = w.answer result) (hok : response.status = .ok) :
    ∃ m, result = .ok m ∧
      response = (Http.Response.ofAnswer (.encapsulated m)).forMethod w.method := by
  obtain ⟨-, rfl⟩ := RelayEffect.answered.inj h
  rw [Http.Response.status_forMethod] at hok
  cases result with
  | error f => exact absurd hok (Http.statusOf_ne_ok f)
  | ok m => exact ⟨m, rfl, rfl⟩

/-! ## Both directions -/

/-- A request that is offered carries the bytes that came as the body of the client's request. -/
structure Forwarded (config : Config) (v : Nat) (past : List RelayOccurrence) (g : String)
    (w : WireRequest) : Prop where
  body : ∃ upload more chunks, past = upload ++ .event (.uploaded v) :: more ∧
    bodyOf v upload = chunks.map .bytes ∧ w.body = joined chunks
  nonempty : 0 < w.body.size
  bounded : ∃ t, (Registry.ofConfig config).find? g = some t ∧
    w.body.size ≤ min config.limits.maxBodySize.toNat t.maxBodySize

/-- An answer carries the bytes that came as the body of the gateway's reply, which was a success and
was declared as an encapsulated response. -/
structure Returned (config : Config) (r : Relay) (past : List RelayOccurrence) (g : String)
    (v : Nat) (reply : Reply) (response : Http.Response) : Prop where
  heard : r.Heard past g v reply
  body : response.body = reply.body
  nonempty : 0 < response.body.size
  bounded : response.body.size ≤ config.limits.maxResponseSize.toNat
  contentType : response.contentType = some "message/ohttp-res"
  success : reply.status.isSuccess = true
  declared : MediaType.parse? (reply.contentType.getD "") = some .response

namespace Relay

variable {config : Config} {head : Http.RequestHead} {response : Http.Response}

/-- **An answer with success is a reply that was heard, and passed.** -/
theorem replied_of_answered (h : r.Tied) (hserves : r.Serves) (hnew : r.visit? v = none)
    (hroute : r.routes.find? head.method head.path = some .relay) (hspares : Spares v past)
    (hturn : (r.step (.arrive v head)).1.SendsInTurn v past) (hout : o.isOutside = true)
    (hno : ∀ head, o ≠ .event (.arrive v head))
    (hmem : .answered v response ∈ (((r.step (.arrive v head)).1.history past).1.occur o).2)
    (hok : response.status = .ok) : ∃ g reply reused m,
      .station g (.replied v reply reused) ∈
        (((r.step (.arrive v head)).1.history past).1.occur o).2 ∧
      (r.step (.arrive v head)).1.Heard past g v reply ∧ r.engine.interpret reply = .ok m ∧
      response = .ofAnswer (.encapsulated m) := by
  have harrived : (r.step (.arrive v head)).1.Tied := h.step _ rfl
  have hpast : ∀ o ∈ past, o.isOutside = true := fun o ho => (hspares o ho).1
  have htied := harrived.history hpast
  have hsetup : ((r.step (.arrive v head)).1.history past).1.setup = r.setup :=
    (setup_history _ past).trans (setup_step r _)
  have htells := tells_history h hnew head hspares hturn
  have hstride := occur_stride htied o hout hno
  rw [hsetup] at hstride
  have hvoice := mem_voiced_of_answered hmem
  generalize ((r.step (.arrive v head)).1.history past).1.visit? v = w,
    (((r.step (.arrive v head)).1.history past).1.occur o).1.visit? v = w',
    heffects : (((r.step (.arrive v head)).1.history past).1.occur o).2 = effects
    at hstride htells hvoice ⊢
  -- Only a visit whose exchange is over is answered with success.
  cases hstride with
  | turn w w' effects hgiven hpiece =>
    exfalso
    cases hgiven with
    | aside w effects hnone => simp [hnone] at hvoice
    | receive w head' due a effects hphase hscreen hone => simp [hone] at hvoice
    | dismiss w head' answer effects hphase hresponse hone =>
      -- On the relay's route only a failure is answered at once.
      obtain ⟨-, hhead⟩ := htells w rfl
      rw [hphase] at hhead
      obtain ⟨f, -, rfl⟩ := hresponse (hhead.1 ▸ hroute)
      rw [hone] at hvoice
      exact Http.statusOf_ne_ok f ((Http.Response.status_of_answered hvoice).symm.trans hok)
  | grow w due a body p effects ho hphase hnone => simp [hnone] at hvoice
  | refuse w due a body f effects hphase hone =>
    rw [hone, List.mem_singleton] at hvoice
    obtain ⟨m, hm, -⟩ := Visit.of_answer hvoice hok
    cases hm
  | exchange w due a body i t effects ho hphase hreceived hprepared hnone => simp [hnone] at hvoice
  | breakOff w effects hrunning hone => simp [hone] at hvoice
  | abandon w effects hleave hone =>
    rcases hone with hone | hone
    · simp [hone] at hvoice
    · rw [hone] at hvoice
      cases (Http.Response.status_of_answered hvoice).symm.trans hok
  | conclude w due g m result effects hphase hresult hone =>
    rw [hone, List.mem_singleton] at hvoice
    obtain ⟨m', rfl, rfl⟩ := Visit.of_answer hvoice hok
    rcases hresult with ⟨f, hf⟩ | ⟨reply, reused, hreplied, hinterpret⟩
    · cases hf
    · obtain ⟨hmethod, t, rfl, hmade⟩ : w.method = head.method ∧
          ∃ t, t.name = g ∧ Made r.setup v head past t m := by
        have hw := htells w rfl
        rwa [hphase] at hw
      obtain ⟨-, -, -, -, -, -, -, -, -, hpost⟩ := hmade.message
      obtain ⟨s, hs, -⟩ := exists_station_of_made h hserves hmade
      refine ⟨t.name, reply, reused, m', hreplied, ?_, hinterpret.symm, ?_⟩
      · rw [← heffects] at hreplied
        exact heard_of_replied harrived (hasNoExchange_arrive h hnew head) hs hpast hout hreplied
      · rw [hmethod, hpost]
        rfl

/-- A visit that arrives is not answered with success at once. -/
theorem status_of_arrival (h : r.Tied) (hnew : r.visit? v = none)
    (hroute : r.routes.find? head.method head.path = some .relay)
    (hmem : .answered v response ∈ (r.step (.arrive v head)).2) : response.status ≠ .ok := by
  have hgiven := arrive_turn h.distinct hnew head
  have hvoice := mem_voiced_of_answered hmem
  generalize (r.step (.arrive v head)).1.visit? v = w', (r.step (.arrive v head)).2 = effects
    at hgiven hvoice
  cases hgiven with
  | aside w effects hnone => simp [hnone] at hvoice
  | receive w head' due a effects hphase hscreen hone => simp [hone] at hvoice
  | dismiss w head' answer effects hphase hresponse hone =>
    obtain rfl := VisitPhase.waiting.inj hphase
    obtain ⟨f, -, rfl⟩ := hresponse hroute
    rw [hone] at hvoice
    rw [Http.Response.status_of_answered hvoice]
    exact Http.statusOf_ne_ok f

/-- **Bytes pass unchanged in both directions, and within bounds.** For every relay that is built
from a configuration, and whatever gateways, network, clock and clients do, of every visit:

- Whatever is offered to a gateway is the body of the client's request.
- Whatever is answered with success on the relay's route is the body of the gateway's reply. -/
theorem bytes_pass_unchanged {certificates : List Gateway.Certificate} {r₀ : Relay}
    (hbuild : build config certificates = .ok r₀) (before : List RelayOccurrence)
    (hbefore : ∀ o ∈ before, o.isOutside = true) (hnew : (r₀.history before).1.visit? v = none)
    (head : Http.RequestHead) (past : List RelayOccurrence) (hspares : Spares v past)
    (hturn : ((r₀.history before).1.step (.arrive v head)).1.SendsInTurn v past) :
    let arrival := (r₀.history before).1.step (.arrive v head)
    let onRoute := r₀.routes.find? head.method head.path = some .relay
    (∀ g n w, .station g (.offered v n w) ∉ arrival.2) ∧
    (∀ response, .answered v response ∈ arrival.2 → onRoute → response.status ≠ .ok) ∧
    ∀ o, o.isOutside = true → (∀ head, o ≠ .event (.arrive v head)) →
      let effects := ((arrival.1.history past).1.occur o).2
      (∀ g n w, .station g (.offered v n w) ∈ effects → Forwarded config v past g w) ∧
      (∀ response, .answered v response ∈ effects → onRoute → response.status = .ok →
        ∃ g reply reused, .station g (.replied v reply reused) ∈ effects ∧
          Returned config arrival.1 past g v reply response) := by
  intro arrival onRoute
  have hfresh : r₀.Tied := (isFresh_of_build hbuild).tied
  have htied : (r₀.history before).1.Tied := hfresh.history hbefore
  have hfollows := (follows_of_build hbuild).history hfresh hbefore
  have hroutes : (r₀.history before).1.routes = r₀.routes :=
    congrArg Setup.routes (setup_history r₀ before)
  refine ⟨fun g n w hmem => ?_, fun response hmem hroute => ?_, fun o hout hno => ⟨?_, ?_⟩⟩
  · -- Nothing of the body has come yet.
    have hoffer : ⟨g, n, w⟩ ∈ offersOf v arrival.2 :=
      List.mem_filterMap.mpr ⟨_, hmem, by simp [RelayEffect.offer?]⟩
    rw [offersOf_arrive htied hnew head] at hoffer
    cases hoffer
  · exact status_of_arrival htied hnew (hroutes ▸ hroute) hmem
  · intro g n w hmem
    obtain ⟨t, m, hmade, rfl, hwire⟩ :=
      offered_made htied hfollows.serves hnew head hspares hturn hout hno hmem
    obtain ⟨upload, more, chunks, hpast, hchunks, rfl, hpos, hbound, hfind, -⟩ := hmade.message
    rw [Gateway.wireRequest_eq hwire]
    -- The targets and bounds are those that were configured.
    change (r₀.history before).1.engine.registry.find? t.name = some t at hfind
    rw [hfollows.engine] at hfind
    refine ⟨⟨upload, more, chunks, hpast, hchunks, rfl⟩, hpos, t, hfind, ?_⟩
    rw [← hfollows.bound]
    exact hbound
  · intro response hmem hroute hok
    obtain ⟨g, reply, reused, m, hreplied, hheard, hinterpret, rfl⟩ :=
      replied_of_answered htied hfollows.serves hnew (hroutes ▸ hroute) hspares hturn hout hno hmem
        hok
    obtain ⟨hsuccess, hdeclared, rfl, hpos, hbound⟩ := Engine.of_interpret hinterpret
    rw [hfollows.engine] at hbound
    exact ⟨g, reply, reused, hreplied, hheard, rfl, hpos, hbound, rfl, hsuccess, hdeclared⟩

/-- A request of one byte is offered, and answered with a byte. -/
theorem bytes_pass_unchanged_one :
    let atGateway (e : Gateway.Event) : RelayOccurrence := .event (.station "gateway" e)
    let r := (sampleBuilt.step (.arrive 0 { sampleHead with path := "/gateway" })).1
    let upload := [.event (.piece 0 (.bytes ⟨#[1]⟩)), .event (.uploaded 0), atGateway (.proceed 0),
      atGateway (.connected 0)]
    let reading := upload ++ [atGateway (.ready 0),
      atGateway (.answered 0 ⟨201⟩ (some "Message/OHTTP-Res")), atGateway (.received 0 ⟨#[2]⟩)]
    let request : WireRequest := ⟨"POST", "/", [("host", "[::1]"),
      ("content-type", "message/ohttp-req"), ("content-length", "1")], ⟨#[1]⟩⟩
    let response : Http.Response := { status := .ok, contentType := some "message/ohttp-res"
                                      contentLength := some 1, body := ⟨#[2]⟩ }
    Forwarded sampleConfig 0 upload "gateway" request ∧
      ∃ g reply, Returned sampleConfig r reading g 0 reply response := by
  intro atGateway r upload reading request response
  -- Nothing but the upload and words of the gateway, the upload while the visit runs.
  have hspares : Spares 0 reading := by
    simp [Spares, reading, upload, atGateway, RelayOccurrence.isOutside, RelayEvent.isOutside,
      Gateway.Event.isOwn]
  have hturn : r.SendsInTurn 0 reading := by
    refine (sendsInTurn_of_no_piece (by simp [atGateway])).cons fun p hp w hw => ?_
    have hrunning : (r.visit? 0).all (·.isRunning) = true := by decide +kernel
    rw [hw] at hrunning
    exact hrunning
  constructor
  · -- The offer, when the connection is ready.
    obtain ⟨-, -, hpass⟩ := bytes_pass_unchanged build_sampleConfig [] (by simp) rfl
      { sampleHead with path := "/gateway" } upload hspares.of_append.1 hturn.of_append
    refine (hpass (atGateway (.ready 0)) rfl (by simp [atGateway])).1 "gateway" 0 request ?_
    decide +kernel
  · -- The answer, when the gateway's body has ended.
    obtain ⟨-, -, hpass⟩ := bytes_pass_unchanged build_sampleConfig [] (by simp) rfl
      { sampleHead with path := "/gateway" } reading hspares hturn
    obtain ⟨g, reply, reused, -, hreturned⟩ :=
      (hpass (atGateway (.ended 0)) rfl (by simp [atGateway])).2 response (by decide +kernel)
        (by decide +kernel) rfl
    exact ⟨g, reply, hreturned⟩

end Relay

end ObliviousRelay
