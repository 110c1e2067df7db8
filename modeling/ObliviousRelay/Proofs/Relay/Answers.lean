import ObliviousRelay.Proofs.Relay.Tunnel

/-!
# Answers that tell nothing

Whatever is answered without success is one of a few responses that are fixed once and for all. Which
of them a failure is answered with is told by its kind, and never by its detail.

- `Http.Response.fixed`: those responses; `Relay.discreet_history`: nothing else is answered.
- `Relay.Posted`: whoever has been given a turn on the relay's route has posted its request.
- `Relay.Fails`: how an exchange fails; `Fails.answered`: its client is answered with the failure.
-/

namespace ObliviousRelay

open Gateway (Effect)

/-- The result of an exchange, if it is what an effect at a station tells. -/
def Engine.resultOf? (e : Engine) : Effect → Option (Except Failure Message)
  | .replied _ reply _ => some (e.interpret reply)
  | .failed _ f => some (.error f)
  | _ => none

/-! ## Failures of a kind -/

/-- Failures of one kind: they differ in their details at most. Of the faults of an envelope only that
it is too large is a kind of its own. -/
inductive Failure.SameKind : Failure → Failure → Prop where
  | same (f : Failure) : SameKind f f
  | unreachable (detail detail' : String) :
      SameKind (.gatewayUnreachable detail) (.gatewayUnreachable detail')
  | gatewayError (detail detail' : String) : SameKind (.gatewayError detail) (.gatewayError detail')
  | malformed (fault fault' : FramingFault) (h : fault ≠ .tooLarge) (h' : fault' ≠ .tooLarge) :
      SameKind (.malformedMessage fault) (.malformedMessage fault')

namespace Http

/-- **Failures of one kind have one answer.** -/
theorem Answer.ofFailure_eq {f f' : Failure} (h : f.SameKind f') : ofFailure f = ofFailure f' := by
  cases h with
  | same f => rfl
  | unreachable detail detail' => rfl
  | gatewayError detail detail' => rfl
  | malformed fault fault' h h' =>
    have hbad : ∀ fault : FramingFault, fault ≠ .tooLarge →
        statusOf (.malformedMessage fault) = .badRequest := by
      intro fault hfault
      cases fault with
      | tooLarge => exact absurd rfl hfault
      | mediaType | empty => rfl
    rw [ofFailure, ofFailure, hbad fault h, hbad fault' h']

/-- The statuses that failures are answered with. -/
def failureStatuses : List Status :=
  [.badRequest, .notFound, .methodNotAllowed, .payloadTooLarge, .unsupportedMediaType, .badGateway,
    .serviceUnavailable, .gatewayTimeout]

theorem statusOf_mem (f : Failure) : statusOf f ∈ failureStatuses := by
  cases f with
  | malformedMessage fault => cases fault <;> decide
  | gatewayUnreachable detail | gatewayError detail =>
    exact (by decide : Status.badGateway ∈ failureStatuses)
  | _ => decide

namespace Response

/-- A status whose reason is told and nothing else. -/
def reasoned (s : Status) : Response where
  status := s
  contentType := some "text/plain; charset=utf-8"
  contentLength := some s.reason.toUTF8.size
  body := s.reason.toUTF8

/-- All responses that are given without success. -/
def fixed : List Response :=
  failureStatuses.map reasoned ++ failureStatuses.map (fun s => (reasoned s).forMethod "HEAD") ++
    [unrouted "GET", unrouted "HEAD", unprobed, tooLate]

/-- The answer to an exchange that its gateway has failed. -/
def badGateway : Response where
  status := ⟨502⟩
  contentType := some "text/plain; charset=utf-8"
  contentLength := some 11
  body := "Bad Gateway".toUTF8

variable {method : String} {response : Response}

/-- Only what answers a HEAD request differs by the method. -/
theorem forMethod_cases (method : String) (response : Response) :
    response.forMethod method = response ∨
      response.forMethod method = response.forMethod "HEAD" := by
  by_cases h : method = "HEAD"
  · exact .inr (by rw [h])
  · exact .inl (if_neg h)

theorem forMethod_of_empty (h : response.body = .empty) :
    response.forMethod method = response := by
  unfold forMethod
  split
  · rw [← h]
  · rfl

theorem fixed_of_failure (f : Failure) (method : String) :
    (ofAnswer (.ofFailure f)).forMethod method ∈ fixed := by
  change (reasoned (statusOf f)).forMethod method ∈ fixed
  have hstatus := statusOf_mem f
  apply List.mem_append_left
  rcases forMethod_cases method (reasoned (statusOf f)) with heq | heq
  · rw [heq]
    exact List.mem_append_left _ (List.mem_map_of_mem hstatus)
  · rw [heq]
    exact List.mem_append_right _ (List.mem_map_of_mem (f := fun s => (reasoned s).forMethod "HEAD")
      hstatus)

theorem fixed_of_unrouted (asked method : String) : (unrouted asked).forMethod method ∈ fixed := by
  apply List.mem_append_right
  rw [forMethod_of_empty rfl]
  by_cases h : asked = "HEAD"
  · rw [h]
    simp
  · have hget : unrouted asked = unrouted "GET" := by simp [unrouted, h]
    rw [hget]
    simp

/-- The liveness probe is answered with success, or does not know the method. -/
theorem fixed_of_probe (asked method : String) (gateways : Nat) :
    ((probe asked gateways).forMethod method).status = .ok ∨
      (probe asked gateways).forMethod method ∈ fixed := by
  unfold probe
  split
  · exact .inl (status_forMethod _ _)
  · refine .inr (List.mem_append_right _ ?_)
    rw [forMethod_of_empty rfl]
    simp

theorem fixed_of_tooLate (method : String) : tooLate.forMethod method ∈ fixed := by
  apply List.mem_append_right
  rw [forMethod_of_empty rfl]
  simp

end Response

end Http

/-! ## Every answer -/

/-- Effects in which whatever is answered without success is fixed. -/
def Discreet (effects : List RelayEffect) : Prop :=
  ∀ u response, .answered u response ∈ effects →
    response.status = .ok ∨ response ∈ Http.Response.fixed

theorem Discreet.append {effects more : List RelayEffect} (h : Discreet effects)
    (hmore : Discreet more) : Discreet (effects ++ more) := by
  intro u response hmem
  rcases List.mem_append.mp hmem with hmem | hmem
  · exact h u response hmem
  · exact hmore u response hmem

theorem discreet_nil : Discreet [] := fun _ _ hmem => by cases hmem

namespace Relay

variable {r : Relay} {out : Outcome}

theorem discreet_forAll {α : Type} {next : Relay → α → Outcome}
    (h : ∀ r x, Discreet (next r x).2) (r : Relay) (xs : List α) :
    Discreet (r.forAll xs next).2 := by
  induction xs generalizing r with
  | nil => exact discreet_nil
  | cons x rest ih =>
    rw [forAll_cons, andThen_eq]
    exact (h r x).append (ih (next r x).1)

theorem discreet_reply (r : Relay) (w : Visit) {response : Http.Response}
    (h : (response.forMethod w.method).status = .ok ∨
      response.forMethod w.method ∈ Http.Response.fixed) : Discreet (r.reply w response).2 := by
  intro u answer hmem
  obtain ⟨-, rfl⟩ := RelayEffect.answered.inj (List.mem_singleton.mp hmem)
  exact h

theorem discreet_conclude (r : Relay) (w : Visit) (result : Except Failure Message) :
    Discreet (r.conclude w result).2 := by
  apply discreet_reply
  cases result with
  | ok m => exact .inl (Http.Response.status_forMethod _ _)
  | error f => exact .inr (Http.Response.fixed_of_failure f w.method)

theorem discreet_startIfFree (r : Relay) (w : Visit) : Discreet (r.startIfFree w).2 := by
  unfold startIfFree
  split
  · split
    · unfold start
      split
      · exact discreet_reply r w (.inr (Http.Response.fixed_of_unrouted _ _))
      · exact discreet_reply r w (Http.Response.fixed_of_probe _ _ _)
      · split
        · exact discreet_conclude r w _
        · simp [Discreet]
    · exact discreet_nil
  · exact discreet_nil

theorem discreet_startWaiting (r : Relay) : Discreet r.startWaiting.2 :=
  discreet_forAll discreet_startIfFree r r.visits

theorem discreet_andThen {next : Relay → Outcome} (h : Discreet out.2)
    (hnext : ∀ r, Discreet (next r).2) : Discreet (out.andThen next).2 := by
  rw [andThen_eq]
  exact h.append (hnext out.1)

theorem discreet_atStation (r : Relay) (g : String) (e : Gateway.Event) :
    Discreet (r.atStation g e).2 := by
  rw [effects_atStation]
  simp [Discreet]

/-! ### What follows at a station -/

theorem discreet_conclusion (r : Relay) (g : String) (w : Visit)
    (result : Except Failure Message) : Discreet (r.conclusion g w result).2 := by
  apply discreet_andThen
  · apply discreet_andThen (discreet_atStation r g _)
    exact fun r => discreet_conclude r w result
  · exact discreet_startWaiting

theorem discreet_breakOff (r : Relay) (w : Visit) : Discreet (r.breakOff w).2 := by
  apply discreet_andThen
  · simp [Discreet]
  · exact discreet_startWaiting

theorem discreet_follow (r : Relay) (g : String) (f : Effect) : Discreet (r.follow g f).2 := by
  cases f with
  | leased x reused =>
    simp only [follow]
    split
    · exact discreet_atStation r g _
    · exact discreet_nil
  -- Only a lease that is used, and an end, make the relay do anything.
  | replied x reply reused | failed x f =>
    simp only [follow]
    split
    · exact discreet_conclusion r g _ _
    · exact discreet_nil
  | overflowed x =>
    simp only [follow]
    split
    · exact discreet_breakOff r _
    · exact discreet_nil
  | _ => exact discreet_nil

theorem discreet_station (r : Relay) (g : String) (e : Gateway.Event) :
    Discreet (r.station g e).2 := by
  apply discreet_andThen (discreet_atStation r g e)
  exact fun r => discreet_forAll (fun r f => discreet_follow r g f) r _

/-! ### What clients do -/

theorem discreet_refusal (r : Relay) (w : Visit) (f : Failure) :
    Discreet ((r.conclude w (.error f)).andThen startWaiting).2 :=
  discreet_andThen (discreet_conclude r w _) discreet_startWaiting

theorem discreet_exchange (r : Relay) (w : Visit) (due : Nat) (a : Http.Admission)
    (body : Http.Body) : Discreet (r.exchange w due a body).2 := by
  rcases r.exchange_cases w due a body with ⟨f, heq⟩ | ⟨i, t, s, -, -, -, heq⟩ <;> rw [heq]
  · exact discreet_refusal r w f
  · exact discreet_station _ _ _

theorem discreet_receivePiece (r : Relay) (w : Visit) (due : Nat) (a : Http.Admission)
    (body : Http.Body) : Discreet (r.receivePiece w due a body).2 := by
  unfold receivePiece
  split
  · exact discreet_refusal r w _
  · exact discreet_nil

theorem discreet_abandon (r : Relay) (w : Visit) : Discreet (r.abandon w).2 := by
  unfold abandon
  split
  · exact discreet_atStation _ _ _
  · exact discreet_nil

theorem discreet_step (r : Relay) (ev : RelayEvent) : Discreet (r.step ev).2 := by
  cases ev with
  | arrive v head =>
    simp only [step]
    split
    · exact discreet_nil
    · exact discreet_startWaiting _
  | piece v p | uploaded v =>
    simp only [step]
    split
    · split
      · first | exact discreet_receivePiece r _ _ _ _ | exact discreet_exchange r _ _ _ _
      · exact discreet_nil
    · exact discreet_nil
  | leave v =>
    simp only [step]
    split
    · exact discreet_andThen (discreet_abandon r _) discreet_startWaiting
    · exact discreet_nil
  | late v =>
    simp only [step]
    split
    · split
      · -- A visit that is late has the one answer for that.
        refine discreet_andThen (discreet_andThen (discreet_abandon r _) fun r => ?_)
          discreet_startWaiting
        intro u response hmem
        obtain ⟨-, rfl⟩ := RelayEffect.answered.inj (List.mem_singleton.mp hmem)
        exact .inr (Http.Response.fixed_of_tooLate _)
      · exact discreet_nil
    · exact discreet_nil
  | station g e =>
    cases e with
    | elapse duration => exact discreet_nil
    | _ => exact discreet_station r g _
  | elapse duration =>
    simp only [step]
    split <;> exact discreet_nil

/-- **Whatever is answered without success is fixed**, in the course of any occurrences. -/
theorem discreet_history (r : Relay) (os : List RelayOccurrence) : Discreet (r.history os).2 := by
  induction os generalizing r with
  | nil => exact discreet_nil
  | cons o rest ih =>
    rw [history_cons]
    apply Discreet.append
    · cases o with
      | event ev => exact discreet_step r ev
      | delay duration => exact discreet_nil
    · exact ih (r.occur o).1

end Relay

/-! ## Whose request is posted -/

/-- A visit waits with the method of its head; once its turn has come on the relay's route it is one
that posts. -/
def Visit.IsPosted (w : Visit) : Prop :=
  match w.phase with
  | .waiting head => w.method = head.method
  | _ => w.method = "POST"

section Posted

variable {c : Setup} {v : Nat} {w w' : Option Visit} {effects : List RelayEffect}
  {o : RelayOccurrence}

theorem Turn.isPosted (h : Turn c v w effects w') (hw : ∀ u, w = some u → u.IsPosted) :
    ∀ u, w' = some u → u.IsPosted := by
  cases h with
  | aside => exact hw
  | receive w head due a effects hphase hscreen =>
    -- Only who posts is let in.
    intro u hu
    obtain rfl := Option.some.inj hu
    have hposted := hw w rfl
    rw [Visit.IsPosted, hphase] at hposted
    exact hposted.trans (Http.Inbound.screen_eq_ok_iff.mp hscreen).posted
  | dismiss =>
    intro u hu
    cases hu

theorem Stride.isPosted (h : Stride c v o w effects w') (hw : ∀ u, w = some u → u.IsPosted) :
    ∀ u, w' = some u → u.IsPosted := by
  cases h with
  | turn w w' effects hturn => exact hturn.isPosted hw
  | grow w due a body p effects ho hphase | exchange w due a body i t effects ho hphase =>
    intro u hu
    obtain rfl := Option.some.inj hu
    have hposted := hw w rfl
    rw [Visit.IsPosted, hphase] at hposted
    exact hposted
  | refuse | conclude | breakOff | abandon =>
    intro u hu
    cases hu

end Posted

/-! ## Whose head is refused -/

section Refused

variable {c : Setup} {v : Nat} {w : Visit} {head : Http.RequestHead} {f : Failure}
  {effects : List RelayEffect} {ev : RelayEvent}

/-- A visit whose head is refused is answered with the failure. -/
theorem Turn.answered (h : Turn c v (some w) effects none) (hphase : w.phase = .waiting head)
    (hroute : c.routes.find? head.method head.path = some .relay)
    (hscreen : Http.Inbound.screen c.route head = .error f) :
    voiced v effects = [w.answer (.error f)] := by
  cases h with
  | dismiss w head' response effects hphase' hresponse hone =>
    obtain rfl := VisitPhase.waiting.inj (hphase.symm.trans hphase')
    obtain ⟨f', hf', rfl⟩ := hresponse hroute
    obtain rfl := Except.error.inj (hscreen.symm.trans hf')
    exact hone

/-- A visit that waits is refused when its turn comes, not when its client leaves. -/
theorem Stride.answered (h : Stride c v (.event ev) (some w) effects none)
    (hphase : w.phase = .waiting head)
    (hroute : c.routes.find? head.method head.path = some .relay)
    (hscreen : Http.Inbound.screen c.route head = .error f) (hstays : ev ≠ .leave v) :
    voiced v effects = [w.answer (.error f)] := by
  have hwaits : ¬ w.isRunning = true := by simp [Visit.isRunning, hphase]
  cases h with
  | turn _ _ _ hturn => exact hturn.answered hphase hroute hscreen
  | refuse w due a body f' effects hphase' => cases hphase.symm.trans hphase'
  | conclude w due g m result effects hphase' => cases hphase.symm.trans hphase'
  | breakOff w effects hrunning => exact absurd hrunning hwaits
  | abandon w effects hleave =>
    rcases hleave with hrunning | hleave
    · exact absurd hrunning hwaits
    · exact absurd (RelayOccurrence.event.inj hleave) hstays

end Refused

namespace Relay

variable {r r₀ : Relay} {v : Nat} {w : Visit} {g : String} {f : Failure}
  {os : List RelayOccurrence} {ev : RelayEvent}

/-- All visits whose turn has come on the relay's route are posted. -/
def Posted (r : Relay) : Prop := ∀ v w, r.visit? v = some w → w.IsPosted

theorem Posted.occur (h : r.Posted) (htied : r.Tied) {o : RelayOccurrence}
    (hout : o.isOutside = true) : (r.occur o).1.Posted := by
  intro v
  -- A visit becomes one by arriving, and after that its method stays.
  by_cases harrives : ∃ head, o = .event (.arrive v head)
  · obtain ⟨head, rfl⟩ := harrives
    cases hold : r.visit? v with
    | none =>
      -- Who arrives waits with the method of its head.
      apply (arrive_turn htied.distinct hold head).isPosted
      intro u hu
      obtain rfl := Option.some.inj hu
      rfl
    | some w =>
      have hsame : r.step (.arrive v head) = (r, []) := by simp [step, hold]
      show ∀ u, (r.step (.arrive v head)).1.visit? v = some u → u.IsPosted
      rw [hsame]
      exact h v
  · have hstride := occur_stride htied o hout fun head heq => harrives ⟨head, heq⟩
    exact hstride.isPosted (h v)

theorem posted_of_build {config : Config} {certificates : List Gateway.Certificate}
    (hbuild : build config certificates = .ok r₀) (hout : ∀ o ∈ os, o.isOutside = true) :
    (r₀.history os).1.Posted := by
  have hfresh := isFresh_of_build hbuild
  -- By induction on the history, with the latest occurrence in front.
  induction os using List.reverseRecOn with
  | nil =>
    intro v w hw
    have hnone : r₀.visit? v = none := by simp [visit?, hfresh.visits]
    exact absurd (hnone.symm.trans hw) (by simp)
  | append_singleton os o ih =>
    have hpast : ∀ o ∈ os, o.isOutside = true := fun o ho => hout o (List.mem_append_left _ ho)
    rw [history_append]
    exact (ih hpast).occur (hfresh.tied.history hpast) (hout o (by simp))

/-- What answers a failed exchange is told by its failure alone, unless only a head is asked for. -/
theorem answer_of_method (h : w.method ≠ "HEAD") :
    w.answer (.error f) = .answered w.id (.ofAnswer (.ofFailure f)) := by
  rw [Visit.answer, Http.Response.forMethod, if_neg h]
  rfl

theorem answer_of_isPosted (h : w.IsPosted) (hrunning : w.isRunning = true) :
    w.answer (.error f) = .answered w.id (.ofAnswer (.ofFailure f)) := by
  apply answer_of_method
  cases hphase : w.phase with
  | waiting head => simp [Visit.isRunning, hphase] at hrunning
  | uploading | exchanging =>
    rw [Visit.IsPosted, hphase] at h
    rw [h]
    decide

/-! ## Results -/

/-- An exchange is concluded with its result, at its station. -/
theorem station_of_result (h : r.Tied) {e : Gateway.Event} {f : Effect}
    {result : Except Failure Message}
    (hrequest : ∀ x timeout, e = .request x timeout → r.Exchanges x g)
    (hmem : f ∈ (r.client.step g e).2) (hx : f.about? = some v)
    (hresult : r.engine.resultOf? f = some result) :
    ∃ w, r.visit? v = some w ∧ w.isRunning = true ∧ (r.station g e).1.visit? v = none ∧
      voiced v (r.station g e).2 = [w.answer result] := by
  have hfollowed : f.isFollowed = true := by
    cases f <;> first | rfl | cases hresult
  have hin : f ∈ (r.client.step g e).2.filter Effect.isFollowed :=
    List.mem_filter.mpr ⟨hmem, hfollowed⟩
  rcases station_cases h g e hrequest with ⟨hnone, -⟩ | ⟨f', x, hone, hx', hv, -, heq⟩
  · rw [hnone] at hin
    cases hin
  · -- Nothing else is followed.
    obtain rfl : f = f' := List.mem_singleton.mp (hone ▸ hin)
    obtain rfl := Option.some.inj (hx.symm.trans hx')
    obtain ⟨w, due, m, hw, hphase⟩ := hv
    obtain rfl := id_of_visit? hw
    have hsame : (r.atStation g e).1.visit? w.id = some w := hw
    have hfollow : (r.atStation g e).1.follow g f = (r.atStation g e).1.conclusion g w result := by
      cases f with
      | replied x reply reused =>
        obtain rfl := Option.some.inj hx
        obtain rfl := Option.some.inj hresult
        simp only [follow, hsame]
        rfl
      | failed x failure =>
        obtain rfl := Option.some.inj hx
        obtain rfl := Option.some.inj hresult
        simp only [follow, hsame]
      | _ => cases hresult
    obtain ⟨⟨hgone, hone⟩, -⟩ :=
      conclusion_closes (r := (r.atStation g e).1) (g := g) (w := w) h.distinct result
    refine ⟨w, hw, by simp [Visit.isRunning, hphase], ?_, ?_⟩
    · rw [heq, andThen_eq, hfollow]
      exact hgone
    · rw [heq, andThen_eq, hfollow, voiced_append, effects_atStation, voiced_station, hone,
        List.nil_append]

/-- **An exchange is concluded with its result**, and this is all that its client sees. -/
theorem concluded_of_result (h : r.Tied) (hout : ev.isOutside = true) {f : Effect}
    {result : Except Failure Message} (hmem : .station g f ∈ (r.step ev).2)
    (hx : f.about? = some v) (hresult : r.engine.resultOf? f = some result) :
    ∃ w, r.visit? v = some w ∧ w.isRunning = true ∧ (r.step ev).1.visit? v = none ∧
      voiced v (r.step ev).2 = [w.answer result] := by
  have hfollowed : f.isFollowed = true := by
    cases f <;> first | rfl | cases hresult
  obtain ⟨r', e, hacts, hmem'⟩ := acts_of_followed h hout hmem hfollowed
  have hresult' : r'.engine.resultOf? f = some result := by
    rw [hacts.engine]
    exact hresult
  obtain ⟨w', hw', hrunning, hgone, hone⟩ :=
    station_of_result hacts.tied hacts.request hmem' hx hresult'
  -- It is answered as the visit that it has been.
  obtain ⟨w, hw, hsame, hmethod⟩ := hacts.visits v w' hw'
  rw [← hacts.step] at hgone hone
  refine ⟨w, hw, hsame ▸ hrunning, hgone, hone.trans ?_⟩
  rw [Visit.answer, Visit.answer, hmethod, id_of_visit? hw, id_of_visit? hw']

/-! ## Failed exchanges -/

/-- How an exchange fails. Who asks for a head alone gets no body with the answer, whatever it is, and
is no exchange. -/
inductive Fails (r : Relay) (v : Nat) : RelayEvent → Failure → Prop where
  /-- Its head is refused when its turn has come, which may be at once. -/
  | screened (ev : RelayEvent) (head : Http.RequestHead) (f : Failure)
      (hwaits : (ev = .arrive v head ∧ r.visit? v = none) ∨
        ∃ w, r.visit? v = some w ∧ w.phase = .waiting head)
      (hroute : r.routes.find? head.method head.path = some .relay)
      (hmethod : head.method ≠ "HEAD") (hscreen : Http.Inbound.screen r.route head = .error f)
      (hturn : (r.step ev).1.visit? v = none) (hstays : ev ≠ .leave v) : Fails r v ev f
  /-- More has come of its body than may. -/
  | overrun (w : Visit) (due : Nat) (a : Http.Admission) (body : Http.Body) (p : Http.Piece)
      (hw : r.visit? v = some w) (hphase : w.phase = .uploading due a body)
      (hfull : Http.Body.collect r.route.maxBodySize (body ++ [p]) = none) :
      Fails r v (.piece v p) (.malformedMessage .tooLarge)
  /-- Its body is no message, or the message has no target that it is permitted for. -/
  | refused (w : Visit) (due : Nat) (a : Http.Admission) (body : Http.Body) (f : Failure)
      (hw : r.visit? v = some w) (hphase : w.phase = .uploading due a body)
      (hrefused : (do
        let i ← Http.Inbound.receive r.route a body
        let t ← r.engine.prepare i.selector i.message
        r.client.stationFor t) = .error f) : Fails r v (.uploaded v) f
  /-- Its lease or its message fails at the gateway's station. -/
  | failed (ev : RelayEvent) (g : String) (f : Failure)
      (hmem : .station g (.failed v f) ∈ (r.step ev).2) : Fails r v ev f
  /-- The gateway's reply is judged and does not pass. -/
  | rejected (ev : RelayEvent) (g : String) (reply : Gateway.Reply) (reused : Bool) (f : Failure)
      (hmem : .station g (.replied v reply reused) ∈ (r.step ev).2)
      (hrejected : r.engine.interpret reply = .error f) : Fails r v ev f

/-- A visit that waited is answered with the failure that its head is refused for. -/
theorem answered_of_turn {head : Http.RequestHead} (htied : r.Tied) (hout : ev.isOutside = true)
    (hw : r.visit? v = some w) (hphase : w.phase = .waiting head)
    (hroute : r.routes.find? head.method head.path = some .relay)
    (hscreen : Http.Inbound.screen r.route head = .error f)
    (hturn : (r.step ev).1.visit? v = none) (hstays : ev ≠ .leave v) :
    voiced v (r.step ev).2 = [w.answer (.error f)] := by
  -- Who is known already does not arrive.
  have hno : ∀ head', RelayOccurrence.event ev ≠ .event (.arrive v head') := by
    rintro head' heq
    obtain rfl := RelayOccurrence.event.inj heq
    have hsame : r.step (.arrive v head') = (r, []) := by simp [step, hw]
    rw [hsame, hw] at hturn
    cases hturn
  have hstride : Stride r.setup v (.event ev) (r.visit? v) (r.step ev).2
      ((r.step ev).1.visit? v) := occur_stride htied (.event ev) hout hno
  rw [hw, hturn] at hstride
  exact hstride.answered hphase hroute hscreen hstays

/-- A visit whose upload is refused is answered with the failure. -/
theorem answered_of_refusal (h : r.HasDistinctVisits) (w : Visit) (f : Failure) :
    voiced w.id ((r.conclude w (.error f)).andThen startWaiting).2 = [w.answer (.error f)] := by
  obtain ⟨⟨-, hone⟩, -⟩ :=
    startWaiting_of_conclude r [] w (.error f) rfl rfl h fun _ => rfl
  exact hone

theorem exchange_of_refused (w : Visit) (due : Nat) (a : Http.Admission) (body : Http.Body)
    (h : (do
      let i ← Http.Inbound.receive r.route a body
      let t ← r.engine.prepare i.selector i.message
      r.client.stationFor t) = .error f) :
    r.exchange w due a body = (r.conclude w (.error f)).andThen startWaiting := by
  unfold exchange
  -- The request is refused at the first of the three stages that fails.
  cases hreceived : Http.Inbound.receive r.route a body with
  | error f' =>
    rw [hreceived] at h
    obtain rfl := Except.error.inj h
    rfl
  | ok i =>
    cases hprepared : r.engine.prepare i.selector i.message with
    | error f' =>
      simp only [hreceived, hprepared, bind, Except.bind, Except.error.injEq] at h ⊢
      rw [h]
    | ok t =>
      simp only [hreceived, hprepared, bind, Except.bind] at h
      simp only [hprepared, bind, Except.bind, pure, Except.pure, h]

/-- **The client of a failed exchange is answered with the failure**, and sees nothing else. -/
theorem Fails.answered (h : r.Fails v ev f) (htied : r.Tied) (hposted : r.Posted)
    (hout : ev.isOutside = true) :
    voiced v (r.step ev).2 = [.answered v (.ofAnswer (.ofFailure f))] := by
  -- From its upload on a visit is one that posts.
  have hrunning : ∀ w, r.visit? v = some w → w.isRunning = true →
      voiced v (r.step ev).2 = [w.answer (.error f)] →
      voiced v (r.step ev).2 = [.answered v (.ofAnswer (.ofFailure f))] := by
    intro w hw hrunning hone
    rw [hone, answer_of_isPosted (hposted v w hw) hrunning, id_of_visit? hw]
  cases h with
  | screened ev head f hwaits hroute hmethod hscreen hturn hstays =>
    rcases hwaits with ⟨rfl, hnew⟩ | ⟨w, hw, hphase⟩
    · have harrive := arrive_turn htied.distinct hnew head
      rw [hturn] at harrive
      rw [harrive.answered rfl hroute hscreen]
      exact congrArg (List.cons · []) (answer_of_method hmethod)
    · have hwaiting := hposted v w hw
      rw [Visit.IsPosted, hphase] at hwaiting
      rw [answered_of_turn htied hout hw hphase hroute hscreen hturn hstays,
        answer_of_method (hwaiting ▸ hmethod), id_of_visit? hw]
  -- One piece too many ends an upload.
  | overrun w due a body p hw hphase hfull =>
    refine hrunning w hw (by simp [Visit.isRunning, hphase]) ?_
    obtain rfl := id_of_visit? hw
    simp only [step, hw, hphase, receivePiece, hfull]
    exact answered_of_refusal htied.distinct w _
  -- The whole body has come, and a stage refuses it.
  | refused w due a body f hw hphase hrefused =>
    refine hrunning w hw (by simp [Visit.isRunning, hphase]) ?_
    obtain rfl := id_of_visit? hw
    simp only [step, hw, hphase]
    rw [exchange_of_refused w due a body hrefused]
    exact answered_of_refusal htied.distinct w f
  -- The station tells of the failure.
  | failed ev g f hmem =>
    obtain ⟨w, hw, hran, -, hone⟩ := concluded_of_result htied hout hmem rfl rfl
    exact hrunning w hw hran hone
  -- The gateway's reply is rejected.
  | rejected ev g reply reused f hmem hrejected =>
    obtain ⟨w, hw, hran, -, hone⟩ :=
      concluded_of_result htied hout hmem rfl (congrArg some hrejected)
    exact hrunning w hw hran hone

/-- **Failed exchanges of one kind are answered alike**, whatever their details. -/
theorem Fails.answered_alike {r' : Relay} {ev' : RelayEvent} {u : Nat} {f' : Failure}
    (h : r.Fails v ev f) (h' : r'.Fails u ev' f') (hkind : f.SameKind f') (htied : r.Tied)
    (htied' : r'.Tied) (hposted : r.Posted) (hposted' : r'.Posted) (hout : ev.isOutside = true)
    (hout' : ev'.isOutside = true) : ∃ response,
      voiced v (r.step ev).2 = [.answered v response] ∧
        voiced u (r'.step ev').2 = [.answered u response] := by
  refine ⟨.ofAnswer (.ofFailure f), h.answered htied hposted hout, ?_⟩
  rw [h'.answered htied' hposted' hout', Http.Answer.ofFailure_eq hkind]

end Relay

end ObliviousRelay
