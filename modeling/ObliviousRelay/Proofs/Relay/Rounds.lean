import ObliviousRelay.Proofs.Relay.Life
import ObliviousRelay.Proofs.Relay.Progress

/-!
# One station of a relay

Whatever happens to a relay, each of its stations goes through a short round of events: none, what
happened there, and what the relay does about it at once. So what a relay does at a station in the
course of time is a history of that station.

- `Reaction`: what a relay does at once about the effects at a station.
- `Round`: what an occurrence comes to at a station; `Relay.occur_round`: it is nothing else.
-/

namespace ObliviousRelay

open Gateway (Station Effect Occurrence)

/-- An effect at one station. -/
def RelayEffect.at? (g : String) : RelayEffect → Option Effect
  | .station g' f => if g' = g then some f else none
  | _ => none

/-- What is brought about at one station. -/
def effectsAt (g : String) (effects : List RelayEffect) : List Effect := effects.filterMap (·.at? g)

/-- What a relay does at once about the effects of an event at a station. -/
inductive Reaction (r : Relay) (g : String) (fs : List Effect) : List Occurrence → Prop where
  | quiet (h : fs.filter Effect.isFollowed = []) : Reaction r g fs []
  /-- A lease is used for the message of its visit. -/
  | use (x : Nat) (reused : Bool) (w : Visit) (due : Nat) (m : Message)
      (hone : fs.filter Effect.isFollowed = [.leased x reused]) (hw : r.visit? x = some w)
      (hphase : w.phase = .exchanging due g m) :
      Reaction r g fs [.event (.send x (.ofMessage m))]
  /-- A lease that was answered or failed is given back. -/
  | giveBack (x : Nat) (f : Effect) (hone : fs.filter Effect.isFollowed = [f])
      (hf : (∃ reply reused, f = .replied x reply reused) ∨ ∃ failure, f = .failed x failure) :
      Reaction r g fs [.event (.release x)]
  | breakDown (x : Nat) (hone : fs.filter Effect.isFollowed = [.overflowed x]) : Reaction r g fs []

/-- What an occurrence comes to at a station. -/
inductive Round (r : Relay) (g : String) (s : Station) :
    RelayOccurrence → List Occurrence → Prop where
  /-- Nothing, for the occurrence is about others. -/
  | idle (o : RelayOccurrence) (hdelay : ∀ duration, o ≠ .delay duration)
      (hword : ∀ e, e.isOwn = false → (∀ duration, e ≠ .elapse duration) →
        o ≠ .event (.station g e)) : Round r g s o []
  | told (e : Gateway.Event) (more : List Occurrence) (hown : e.isOwn = false)
      (helapse : ∀ duration, e ≠ .elapse duration) (h : Reaction r g (s.step e).2 more) :
      Round r g s (.event (.station g e)) (.event e :: more)
  /-- A visit that becomes an exchange asks for a lease, and gives it up where it gets none. -/
  | asked (v : Nat) (selector : Selector) (m : Message) (t : Target) (more : List Occurrence)
      (hprepared : r.engine.prepare selector m = .ok t) (hname : t.name = g)
      (hnone : s.phase? v = none) (hmore : more = [] ∨ more = [.event (.release v)]) :
      Round r g s (.event (.uploaded v)) (.event (.request v t.requestTimeout) :: more)
  | dropped (v : Nat) (o : RelayOccurrence) (ho : o = .event (.leave v) ∨ o = .event (.late v)) :
      Round r g s o [.event (.drop v)]
  | elapse (duration : Nat) (hmay : r.mayElapse (r.now + duration) = true) :
      Round r g s (.event (.elapse duration)) [.event (.elapse duration)]
  | delay (duration : Nat) : Round r g s (.delay duration) [.delay duration]

variable {g g' : String} {v x : Nat}

@[simp] theorem effectsAt_append (g : String) (effects more : List RelayEffect) :
    effectsAt g (effects ++ more) = effectsAt g effects ++ effectsAt g more :=
  List.filterMap_append

@[simp] theorem effectsAt_self (g : String) (fs : List Effect) :
    effectsAt g (fs.map (.station g)) = fs := by
  induction fs with
  | nil => rfl
  | cons f rest ih =>
    rw [List.map_cons, effectsAt, List.filterMap_cons_some (by rw [RelayEffect.at?, if_pos rfl])]
    exact congrArg _ ih

theorem effectsAt_of_ne (h : g' ≠ g) (fs : List Effect) :
    effectsAt g (fs.map (.station g')) = [] := by
  simp [effectsAt, RelayEffect.at?, h]

theorem effectsAt_of_noStation {effects : List RelayEffect} (h : Relay.NoStation effects) :
    effectsAt g effects = [] := by
  apply List.filterMap_eq_nil_iff.mpr
  intro f hf
  cases f with
  | station g f => exact absurd hf (h g f)
  | _ => rfl

theorem mem_effectsAt {effects : List RelayEffect} {f : Effect} :
    f ∈ effectsAt g effects ↔ .station g f ∈ effects := by
  simp only [effectsAt, List.mem_filterMap]
  constructor
  · rintro ⟨f', hf', hat⟩
    cases f' with
    | station g' f' =>
      rw [RelayEffect.at?] at hat
      split at hat
      · next heq =>
        obtain rfl := Option.some.inj hat
        exact heq ▸ hf'
      · cases hat
    | _ => cases hat
  · exact fun hf => ⟨_, hf, by rw [RelayEffect.at?, if_pos rfl]⟩

namespace Relay

variable {r : Relay} {s : Station} {out : Outcome} {next : Relay → Outcome}
  {es more : List Occurrence} {e : Gateway.Event}

/-- An outcome comes to a history of one station. -/
def Does (g : String) (s : Station) (out : Outcome) (es : List Occurrence) : Prop :=
  out.1.client.station? g = some (s.history es).1 ∧ effectsAt g out.2 = (s.history es).2

namespace Does

theorem nothing (hs : r.client.station? g = some s) (hclient : out.1.client = r.client)
    (hno : NoStation out.2) : Does g s out [] :=
  ⟨by rw [hclient, hs]; rfl, effectsAt_of_noStation hno⟩

theorem andThen (h : Does g s out es) (next : Relay → Outcome)
    (hnext : ∀ s', out.1.client.station? g = some s' → Does g s' (next out.1) more) :
    Does g s (out.andThen next) (es ++ more) := by
  obtain ⟨hstation, heffects⟩ := hnext _ h.1
  rw [Does, andThen_eq, Station.history_append, effectsAt_append, h.2, heffects]
  exact ⟨hstation, rfl⟩

/-- What follows may leave the stations alone. -/
theorem andThen_nothing (h : Does g s out es) (hclient : (next out.1).1.client = out.1.client)
    (hno : NoStation (next out.1).2) : Does g s (out.andThen next) es := by
  have hboth := h.andThen next fun s' hs' => nothing hs' hclient hno
  rwa [List.append_nil] at hboth

end Does

theorem atStation_does (hs : r.client.station? g = some s) (e : Gateway.Event) :
    Does g s (r.atStation g e) [.event e] := by
  refine ⟨?_, ?_⟩
  · rw [client_atStation, Gateway.Client.station?_step_self hs]
    rfl
  · rw [effects_atStation, Gateway.Client.effects_step hs, effectsAt_self, Station.history_cons]
    exact (List.append_nil _).symm

/-- What happens at one station is nothing to the others. -/
theorem atStation_does_of_ne (hs : r.client.station? g = some s) (hne : g ≠ g')
    (e : Gateway.Event) : Does g s (r.atStation g' e) [] := by
  refine ⟨?_, ?_⟩
  · rw [client_atStation, Gateway.Client.station?_step_of_ne hne, hs]
    rfl
  · rw [effects_atStation, effectsAt_of_ne (Ne.symm hne)]
    rfl

theorem startWaiting_does (h : Does g s out es) (hd : out.1.HasDistinctVisits) :
    Does g s (out.andThen startWaiting) es :=
  h.andThen_nothing (startWaiting_advances hd).1.client (startWaiting_advances hd).2

theorem conclude_does (hs : r.client.station? g = some s) (hd : r.HasDistinctVisits) (w : Visit)
    (result : Except Failure Message) :
    Does g s ((r.conclude w result).andThen startWaiting) [] :=
  startWaiting_does (.nothing hs (keeps_conclude r w result).client (noStation_conclude r w result))
    ((keeps_conclude r w result).distinct hd)

theorem conclusion_does (hs : r.client.station? g = some s) (hd : r.HasDistinctVisits) (w : Visit)
    (result : Except Failure Message) :
    Does g s (r.conclusion g w result) [.event (.release w.id)] :=
  startWaiting_does ((atStation_does hs _).andThen_nothing
      (keeps_conclude (r.atStation g (.release w.id)).1 w result).client
      (noStation_conclude _ w result))
    ((keeps_conclude (r.atStation g (.release w.id)).1 w result).distinct hd)

theorem conclusion_does_of_ne (hs : r.client.station? g = some s) (hne : g ≠ g')
    (hd : r.HasDistinctVisits) (w : Visit) (result : Except Failure Message) :
    Does g s (r.conclusion g' w result) [] :=
  startWaiting_does ((atStation_does_of_ne hs hne _).andThen_nothing
      (keeps_conclude (r.atStation g' (.release w.id)).1 w result).client
      (noStation_conclude _ w result))
    ((keeps_conclude (r.atStation g' (.release w.id)).1 w result).distinct hd)

theorem breakOff_does (hs : r.client.station? g = some s) (hd : r.HasDistinctVisits) (w : Visit) :
    Does g s (r.breakOff w) [] :=
  startWaiting_does (.nothing (r := r) hs rfl (by simp [NoStation]))
    ((keeps_erase r w.id).distinct hd)

/-- To go on at one station is nothing to the others. -/
theorem follow_does_of_ne (hs : r.client.station? g = some s) (hne : g ≠ g')
    (hd : r.HasDistinctVisits) (f : Effect) : Does g s (r.follow g' f) [] := by
  have hstill : Does g s (r, []) [] := .nothing hs rfl (by simp [NoStation])
  cases f with
  | leased x reused =>
    simp only [follow]
    split
    · exact atStation_does_of_ne hs hne _
    · exact hstill
  | replied x reply reused | failed x f =>
    simp only [follow]
    split
    · exact conclusion_does_of_ne hs hne hd _ _
    · exact hstill
  | overflowed x =>
    simp only [follow]
    split
    · exact breakOff_does hs hd _
    · exact hstill
  | _ => exact hstill

/-- What the relay does at once about the effects at a station. -/
theorem follow_reaction (hs : r.client.station? g = some s) (hd : r.HasDistinctVisits)
    {fs : List Effect} {f : Effect} (hone : fs.filter Effect.isFollowed = [f])
    (hx : f.about? = some x) (hv : r.Exchanges x g) :
    ∃ more, Reaction r g fs more ∧ Does g s (r.follow g f) more := by
  obtain ⟨w, due, m, hw, hphase⟩ := hv
  obtain rfl := id_of_visit? hw
  -- A lease is sent on, a result gives it back, and an exchange that broke down is gone.
  cases f with
  | leased y reused =>
    obtain rfl : y = w.id := Option.some.inj hx
    refine ⟨_, .use w.id reused w due m hone hw hphase, ?_⟩
    simp only [follow, hw, Option.map_some, hphase]
    exact atStation_does hs _
  | replied y reply reused =>
    obtain rfl : y = w.id := Option.some.inj hx
    refine ⟨_, .giveBack w.id _ hone (.inl ⟨reply, reused, rfl⟩), ?_⟩
    simp only [follow, hw]
    exact conclusion_does hs hd _ _
  | failed y f =>
    obtain rfl : y = w.id := Option.some.inj hx
    refine ⟨_, .giveBack w.id _ hone (.inr ⟨f, rfl⟩), ?_⟩
    simp only [follow, hw]
    exact conclusion_does hs hd _ _
  | overflowed y =>
    obtain rfl : y = w.id := Option.some.inj hx
    refine ⟨_, .breakDown w.id hone, ?_⟩
    simp only [follow, hw]
    exact breakOff_does hs hd _
  | _ =>
    have hmem := List.mem_filter.mp (hone ▸ List.mem_singleton_self _)
    exact absurd hmem.2 (by simp [Effect.isFollowed])

/-- **What happens at a station, and what the relay does about it.** -/
theorem station_does (h : r.Tied) (hs : r.client.station? g = some s)
    (hrequest : ∀ x timeout, e = .request x timeout → r.Exchanges x g) :
    ∃ more, Reaction r g (s.step e).2 more ∧ Does g s (r.station g e) (.event e :: more) := by
  have heffects := Gateway.Client.effects_step (e := e) hs
  rcases station_cases h g e hrequest with ⟨hnone, heq⟩ | ⟨f, x, hone, hx, hv, -, heq⟩
  · rw [heq]
    exact ⟨[], .quiet (heffects ▸ hnone), atStation_does hs e⟩
  · rw [heffects] at hone
    have hat := atStation_does hs e
    obtain ⟨more, hreaction, hdoes⟩ :=
      follow_reaction (r := (r.atStation g e).1) hat.1 h.distinct hone hx hv
    rw [heq]
    refine ⟨more, ?_, ?_⟩
    · -- The visits are as they were before the event.
      cases hreaction with
      | quiet h => exact .quiet h
      | use x reused w due m hone hw hphase => exact .use x reused w due m hone hw hphase
      | giveBack x f hone hf => exact .giveBack x f hone hf
      | breakDown x hone => exact .breakDown x hone
    · refine hat.andThen _ fun s' hs' => ?_
      obtain rfl := Option.some.inj (hat.1.symm.trans hs')
      exact hdoes

/-- What happens at another station. -/
theorem station_does_of_ne (h : r.Tied) (hs : r.client.station? g = some s) (hne : g ≠ g')
    (hrequest : ∀ x timeout, e = .request x timeout → r.Exchanges x g') :
    Does g s (r.station g' e) [] := by
  rcases station_cases h g' e hrequest with ⟨-, heq⟩ | ⟨f, x, -, -, -, -, heq⟩
  · rw [heq]
    exact atStation_does_of_ne hs hne e
  · rw [heq]
    have hboth := (atStation_does_of_ne hs hne e).andThen (·.follow g' f) fun s' hs' =>
      follow_does_of_ne hs' hne h.distinct f
    rwa [List.append_nil] at hboth

/-! ## Rounds -/

/-- A visit that asks for a lease. -/
theorem request_round (h : r.Tied) (hs : r.client.station? g = some s) {w : Visit} {due : Nat}
    {a : Http.Admission} {body : Http.Body} {i : Http.Inbound} {t : Target}
    (hw : r.visit? w.id = some w) (hphase : w.phase = .uploading due a body)
    (hprepared : r.engine.prepare i.selector i.message = .ok t) :
    ∃ es, Round r g s (.event (.uploaded w.id)) es ∧
      Does g s ((r.setPhase w.id (.exchanging due t.name i.message)).station t.name
        (.request w.id t.requestTimeout)) es := by
  have hnone := h.hasNoExchange_of_phase hw (by simp [hphase])
  have hset := h.of_keeps (keeps_setPhase r w.id (.exchanging due t.name i.message)) hnone
  have hs' : (r.setPhase w.id (.exchanging due t.name i.message)).client.station? g = some s := hs
  have hrequest := exchanges_of_request (g := t.name) hw due i.message t.requestTimeout
  by_cases hg : g = t.name
  · subst hg
    obtain ⟨more, hreaction, hdoes⟩ := station_does hset hs' hrequest
    refine ⟨_, .asked w.id i.selector i.message t more hprepared rfl (hnone _ s hs) ?_, hdoes⟩
    -- A lease that is asked for is refused at once, or nothing follows yet.
    have hbusy : ∀ {f : Effect}, (s.step (.request w.id t.requestTimeout)).2.filter
        Effect.isFollowed = [f] → f = .failed w.id .gatewayBusy := by
      intro f hone
      have hmem := List.mem_filter.mp (hone ▸ List.mem_singleton_self f)
      rw [← Gateway.Client.effects_step hs] at hmem
      exact effects_request h hnone _ hmem.1 hmem.2
    cases hreaction with
    | quiet | breakDown => exact .inl rfl
    | use x reused w' due' m hone => exact absurd (hbusy hone) (by simp)
    | giveBack x f hone hf =>
      obtain rfl := hbusy hone
      rcases hf with ⟨reply, reused, heq⟩ | ⟨failure, heq⟩
      · cases heq
      · obtain ⟨rfl, -⟩ := Effect.failed.inj heq
        exact .inr rfl
  · exact ⟨[], .idle _ (by simp) (by simp), station_does_of_ne hset hs' hg hrequest⟩

/-- A visit that has been uploaded. -/
theorem exchange_round (h : r.Tied) (hs : r.client.station? g = some s) {w : Visit} {due : Nat}
    {a : Http.Admission} {body : Http.Body} (hw : r.visit? w.id = some w)
    (hphase : w.phase = .uploading due a body) :
    ∃ es, Round r g s (.event (.uploaded w.id)) es ∧ Does g s (r.exchange w due a body) es := by
  rcases r.exchange_cases w due a body with ⟨f, heq⟩ | ⟨i, t, s', -, hprepared, -, heq⟩ <;> rw [heq]
  · exact ⟨[], .idle _ (by simp) (by simp), conclude_does hs h.distinct w (.error f)⟩
  · exact request_round h hs hw hphase hprepared

/-- A visit that ends early. -/
theorem abandon_round (answer : List RelayEffect) (h : r.Tied) (hs : r.client.station? g = some s)
    {w : Visit} {o : RelayOccurrence} (ho : o = .event (.leave w.id) ∨ o = .event (.late w.id))
    (hanswer : NoStation answer) :
    ∃ es, Round r g s o es ∧
      Does g s (((r.abandon w).andThen fun r => (r, answer)).andThen startWaiting) es := by
  have hidle : Round r g s o [] := by
    rcases ho with rfl | rfl <;> exact .idle _ (by simp) (by simp)
  have hd : (r.abandon w).1.HasDistinctVisits := Quiet.distinct_abandon h.distinct w
  have hall : ∀ {es}, Does g s (r.abandon w) es →
      Does g s (((r.abandon w).andThen fun r => (r, answer)).andThen startWaiting) es :=
    fun hdoes => startWaiting_does (hdoes.andThen_nothing rfl hanswer) hd
  have hs' : (r.erase w.id).client.station? g = some s := hs
  cases hphase : w.phase with
  | waiting | uploading =>
    refine ⟨[], hidle, hall ?_⟩
    simp only [abandon, hphase]
    exact .nothing hs rfl (by simp [NoStation])
  | exchanging due gateway m =>
    -- The exchange is dropped at its own station.
    by_cases hg : g = gateway
    · subst hg
      refine ⟨_, .dropped w.id o ho, hall ?_⟩
      simp only [abandon, hphase]
      exact atStation_does hs' _
    · refine ⟨[], hidle, hall ?_⟩
      simp only [abandon, hphase]
      exact atStation_does_of_ne hs' hg _

/-- **An occurrence comes to a round at each station, and to nothing else.** -/
theorem occur_round (h : r.Tied) (o : RelayOccurrence) (hout : o.isOutside = true)
    (hs : r.client.station? g = some s) :
    ∃ es, Round r g s o es ∧ Does g s (r.occur o) es := by
  have hstill : Does g s (r, []) [] := .nothing hs rfl (by simp [NoStation])
  cases o with
  | delay duration =>
    refine ⟨_, .delay duration, ?_, rfl⟩
    show (r.client.wait duration).station? g = _
    rw [Gateway.Client.station?_wait, hs]
    rfl
  | event ev =>
    show ∃ es, Round r g s (.event ev) es ∧ Does g s (r.step ev) es
    have hidle : (∀ g' e, ev ≠ .station g' e) → Round r g s (.event ev) [] := fun hnot =>
      .idle _ (by simp) fun e _ _ heq => hnot g e (RelayOccurrence.event.inj heq)
    cases ev with
    | arrive v head =>
      refine ⟨[], hidle (by simp), ?_⟩
      simp only [step]
      split
      · exact hstill
      · next hnew =>
        have hkeeps := keeps_append r ⟨v, head.method, .waiting head⟩ (by simpa using hnew)
        have hadv := startWaiting_advances (hkeeps.distinct h.distinct)
        exact .nothing hs hadv.1.client hadv.2
    | piece v p =>
      refine ⟨[], hidle (by simp), ?_⟩
      simp only [step]
      split
      · split
        · unfold receivePiece
          split
          · exact conclude_does hs h.distinct _ _
          · exact .nothing hs rfl (by simp [NoStation])
        · exact hstill
      · exact hstill
    | uploaded v =>
      simp only [step]
      split
      · next w hw =>
        obtain rfl := id_of_visit? hw
        split
        · next due a body hphase => exact exchange_round h hs hw hphase
        · exact ⟨[], hidle (by simp), hstill⟩
      · exact ⟨[], hidle (by simp), hstill⟩
    | leave v =>
      simp only [step]
      split
      · next w hw =>
        obtain rfl := id_of_visit? hw
        have habandon := abandon_round [] h hs (w := w)
          (o := .event (.leave w.id)) (.inl rfl) (by simp [NoStation])
        simpa using habandon
      · exact ⟨[], hidle (by simp), hstill⟩
    | late v =>
      simp only [step]
      split
      · next w hw =>
        obtain rfl := id_of_visit? hw
        split
        · exact abandon_round _ h hs (.inr rfl) (by simp [NoStation])
        · exact ⟨[], hidle (by simp), hstill⟩
      · exact ⟨[], hidle (by simp), hstill⟩
    | station g' e =>
      have hown : e.isOwn = false := by simpa [RelayOccurrence.isOutside, RelayEvent.isOutside]
        using hout
      have hrequest := exchanges_of_outside (r := r) (g := g') hown
      by_cases hclock : ∃ duration, e = .elapse duration
      · -- A single station's clock is not moved.
        obtain ⟨duration, rfl⟩ := hclock
        refine ⟨[], .idle _ (by simp) fun e _ helapse heq => ?_, hstill⟩
        exact helapse duration (RelayEvent.station.inj (RelayOccurrence.event.inj heq)).2.symm
      · have hstep : r.step (.station g' e) = r.station g' e := by
          cases e with
          | elapse duration => exact absurd ⟨duration, rfl⟩ hclock
          | _ => rfl
        rw [hstep]
        by_cases hg : g = g'
        · subst hg
          obtain ⟨more, hreaction, hdoes⟩ := station_does h hs hrequest
          exact ⟨_, .told e more hown (fun duration heq => hclock ⟨duration, heq⟩) hreaction, hdoes⟩
        · refine ⟨[], .idle _ (by simp) fun e' _ _ heq => ?_, station_does_of_ne h hs hg hrequest⟩
          exact hg (RelayEvent.station.inj (RelayOccurrence.event.inj heq)).1.symm
    | elapse duration =>
      simp only [step]
      split
      · next hmay =>
        refine ⟨_, .elapse duration hmay, ?_, ?_⟩
        · show (r.client.elapse duration).station? g = _
          rw [Gateway.Client.station?_elapse, hs]
          rfl
        · show [] = (s.step (.elapse duration)).2 ++ []
          simp only [Station.step]
          split <;> rfl
      · exact ⟨[], hidle (by simp), hstill⟩

/-- **What a relay does at a station in the course of time is a history of that station.** -/
theorem history_does (h : r.Tied) (hs : r.client.station? g = some s) {os : List RelayOccurrence}
    (hout : ∀ o ∈ os, o.isOutside = true) : ∃ es, Does g s (r.history os) es := by
  induction os generalizing r s with
  | nil => exact ⟨[], .nothing hs rfl (by simp [NoStation, history])⟩
  | cons o rest ih =>
    have ho := hout o List.mem_cons_self
    obtain ⟨es, -, hdoes⟩ := occur_round h o ho hs
    obtain ⟨more, hrest⟩ :=
      ih (h.occur o ho) hdoes.1 fun o' ho' => hout o' (List.mem_cons_of_mem _ ho')
    refine ⟨es ++ more, hdoes.andThen (·.history rest) fun s' hs' => ?_⟩
    obtain rfl := Option.some.inj (hdoes.1.symm.trans hs')
    exact hrest

end Relay

namespace Round

variable {r : Relay} {s : Station} {o : RelayOccurrence} {es before after : List Occurrence}
  {e : Gateway.Event}

theorem isOwn_of_reaction {fs : List Effect} {more : List Occurrence} (h : Reaction r g fs more) :
    ∀ o ∈ more, ∃ e, o = .event e ∧ e.isOwn = true := by
  cases h with
  | quiet | breakDown => simp
  | use x reused w due m => simp [Gateway.Event.isOwn]
  | giveBack x f => simp [Gateway.Event.isOwn]

/-- What the relay does at once in a round is its own doing, and comes after what happened. -/
theorem front (h : Round r g s o es) (hes : es = before ++ .event e :: after)
    (hown : e.isOwn = false) (helapse : ∀ duration, e ≠ .elapse duration) :
    before = [] ∧ o = .event (.station g e) ∧ ∀ o ∈ after, ∃ e, o = .event e ∧ e.isOwn = true := by
  have hmem : .event e ∈ es := by simp [hes]
  cases h with
  | idle => cases hmem
  | told e' more hown' helapse' hreaction =>
    have hmine := isOwn_of_reaction hreaction
    cases before with
    | nil =>
      obtain ⟨heq, rfl⟩ := List.cons.inj hes
      obtain rfl := Occurrence.event.inj heq
      exact ⟨rfl, rfl, hmine⟩
    | cons o' before =>
      -- Then the event would be among what the relay does.
      obtain ⟨-, rfl⟩ := List.cons.inj hes
      obtain ⟨e'', heq, hyes⟩ := hmine (.event e) (by simp)
      obtain rfl := Occurrence.event.inj heq
      exact absurd (hyes.symm.trans hown) (by simp)
  | asked v selector m t more hprepared hname hnone hmore =>
    rcases hmore with rfl | rfl <;> simp at hmem
    · subst hmem
      cases hown
    · rcases hmem with rfl | rfl <;> cases hown
  | dropped v =>
    obtain rfl := Occurrence.event.inj (List.mem_singleton.mp hmem)
    cases hown
  | elapse duration =>
    obtain rfl := Occurrence.event.inj (List.mem_singleton.mp hmem)
    exact absurd rfl (helapse duration)
  | delay => simp at hmem

/-- A relay sends on a lease only the message of its visit. -/
theorem message_of_send (h : Round r g s o es) {m : Gateway.Outbound}
    (hmem : .event (.send v m) ∈ es) : ∃ w due message, r.visit? v = some w ∧
      w.phase = .exchanging due g message ∧ m = .ofMessage message := by
  cases h with
  | idle => cases hmem
  | told e more hown helapse hreaction =>
    rcases List.mem_cons.mp hmem with heq | hmem
    · -- To send is not told from outside.
      rw [← Occurrence.event.inj heq] at hown
      cases hown
    · cases hreaction with
      | quiet | breakDown => cases hmem
      | use x reused w due message hone hw hphase =>
        obtain ⟨rfl, rfl⟩ := Gateway.Event.send.inj
          (Occurrence.event.inj (List.mem_singleton.mp hmem))
        exact ⟨w, due, message, hw, hphase, rfl⟩
      | giveBack x f => simp at hmem
  | asked v selector m t more hprepared hname hnone hmore =>
    rcases hmore with rfl | rfl <;> simp at hmem
  | dropped | elapse | delay => simp at hmem

end Round

end ObliviousRelay
