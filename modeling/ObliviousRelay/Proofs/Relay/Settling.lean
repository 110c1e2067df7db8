import ObliviousRelay.Proofs.Relay.Progress

/-!
# What settles a message

Once something has become of an offer, the message is not offered any more. What can become of it is
an answer, a failure or the end of the visit; that the request comes back unsent settles nothing.

- `Settles` lists what settles a message, `Settles.settled` says that it does.
- `Relay.settled_of_concludes`: an exchange that is answered or fails is settled, in the
  same step.
-/

namespace ObliviousRelay

open Gateway (Station WireRequest Connection Terms)
open Gateway.Station (Course)

/-- Whether an effect is the end of an exchange. -/
def Gateway.Effect.concludes (x : Nat) : Gateway.Effect → Bool
  | .replied y _ _ | .failed y _ | .overflowed y => y = x
  | _ => false

namespace Gateway.Effect

variable {f : Effect} {x : Nat}

theorem isFollowed_of_concludes (h : f.concludes x = true) : f.isFollowed = true := by
  cases f <;> first | rfl | cases h

end Gateway.Effect

namespace Relay

variable {r : Relay} {v x : Nat} {g : String} {e : Gateway.Event} {f : Gateway.Effect}
  {w : Visit} {effects more : List RelayEffect}

/-! ## What the relay does by itself is not followed -/

/-- Effects after which the relay does not go on. -/
def Unfollowed (effects : List RelayEffect) : Prop :=
  ∀ g f, .station g f ∈ effects → f.isFollowed = false

theorem NoStation.unfollowed (h : NoStation effects) : Unfollowed effects :=
  fun g f hf => absurd hf (h g f)

theorem Unfollowed.append (h : Unfollowed effects) (hmore : Unfollowed more) :
    Unfollowed (effects ++ more) := by
  intro g f hf
  rcases List.mem_append.mp hf with hf | hf
  · exact h g f hf
  · exact hmore g f hf

/-- What happened at a station is part of its effects. -/
theorem mem_effects_atStation {g' : String} (hf : .station g' f ∈ (r.atStation g e).2) :
    g' = g ∧ f ∈ (r.client.step g e).2 := by
  rw [effects_atStation] at hf
  obtain ⟨f', hmem, heq⟩ := List.mem_map.mp hf
  obtain ⟨rfl, rfl⟩ := RelayEffect.station.inj heq
  exact ⟨rfl, hmem⟩

theorem unfollowed_atStation (h : r.Tied) (hx : e.about? = some x) (hown : e.isOwn = true)
    (hrequest : ∀ timeout, e ≠ .request x timeout)
    (hsend : ∀ m s, e = .send x m → r.client.station? g = some s → s.phase? x ≠ some .spent) :
    Unfollowed (r.atStation g e).2 := by
  intro g' f hf
  obtain ⟨-, hmem⟩ := mem_effects_atStation hf
  cases hs : r.client.station? g with
  | none =>
    rw [Gateway.Client.step_of_none hs] at hmem
    cases hmem
  | some s =>
    rw [Gateway.Client.effects_step hs] at hmem
    have hcourse := (Station.step_transition s e).course (h.slots g s hs) hx
    -- What the relay asks of an exchange in progress is not followed by more.
    have hnone := hcourse.filter_isFollowed hown hrequest fun m hm => hsend m s hm hs
    by_contra hfollowed
    have hfilter := List.mem_filter.mpr ⟨hmem, Bool.eq_true_of_not_eq_false hfollowed⟩
    rw [hnone] at hfilter
    cases hfilter

theorem unfollowed_startWaiting (hd : r.HasDistinctVisits) : Unfollowed r.startWaiting.2 :=
  (startWaiting_advances hd).2.unfollowed

theorem unfollowed_conclude (r : Relay) (w : Visit) (result : Except Failure Message) :
    Unfollowed (r.conclude w result).2 :=
  (noStation_conclude r w result).unfollowed

theorem unfollowed_conclusion (h : r.Tied) (result : Except Failure Message) :
    Unfollowed (r.conclusion g w result).2 := by
  have hrelease : Unfollowed (r.atStation g (.release w.id)).2 :=
    unfollowed_atStation (x := w.id) h rfl rfl (by simp) (by simp)
  have hdistinct := (keeps_conclude (r.atStation g (.release w.id)).1 w result).distinct h.distinct
  exact (hrelease.append (unfollowed_conclude (r.atStation g (.release w.id)).1 w result)).append
    (unfollowed_startWaiting hdistinct)

theorem unfollowed_follow (h : r.Tied) (hx : f.about? = some x)
    (hleaves : ∀ s, r.client.station? g = some s → f.Leaves (s.phase? x)) :
    Unfollowed (r.follow g f).2 := by
  have hnil : Unfollowed [] := fun _ _ hf => absurd hf List.not_mem_nil
  cases f with
  | leased y reused =>
    obtain rfl : y = x := Option.some.inj hx
    simp only [follow]
    split
    · -- A lease that was just obtained has its connection.
      apply unfollowed_atStation (x := y) h rfl rfl (by simp)
      intro m s _ hs hspent
      obtain ⟨c, t, hheld, -⟩ := hleaves s hs
      cases hspent.symm.trans hheld
    · exact hnil
  | replied y reply reused | failed y f =>
    simp only [follow]
    split
    · exact unfollowed_conclusion h _
    · exact hnil
  | overflowed y =>
    simp only [follow]
    split
    · next w hw =>
      have hdistinct := (keeps_erase r w.id).distinct h.distinct
      exact Unfollowed.append (by simp [Unfollowed]) (unfollowed_startWaiting hdistinct)
    · exact hnil
  | _ => exact hnil

theorem unfollowed_abandon (h : r.Tied) (w : Visit) : Unfollowed (r.abandon w).2 := by
  unfold abandon
  split
  · next due gateway m hphase =>
    have hdrop : Unfollowed (r.atStation gateway (.drop w.id)).2 :=
      unfollowed_atStation (x := w.id) h rfl rfl (by simp) (by simp)
    exact hdrop
  · exact fun _ _ hf => absurd hf List.not_mem_nil

/-! ## The end of an exchange -/

/-- What is settled stays so while others get their turns. -/
theorem settled_startWaiting (hd : r.HasDistinctVisits) (h : r.standing v = .settled) :
    r.startWaiting.1.standing v = .settled := by
  rcases (Quiet.startWaiting (v := v) hd).2 with hsame | hsettled
  · exact hsame.trans h
  · exact hsettled

/-- A visit that is answered is settled. -/
theorem settled_conclusion (h : r.Tied) (result : Except Failure Message) :
    (r.conclusion g w result).1.standing w.id = .settled := by
  have hdistinct := (keeps_conclude (r.atStation g (.release w.id)).1 w result).distinct h.distinct
  exact settled_startWaiting hdistinct (standing_of_none visit?_erase_self)

/-- What the relay does after the end of an exchange. -/
theorem settled_follow (h : r.Tied) (hends : f.concludes v = true) :
    (r.follow g f).1.standing v = .settled := by
  cases f with
  | replied y reply reused | failed y f =>
    obtain rfl : y = v := by simpa [Gateway.Effect.concludes] using hends
    simp only [follow]
    split
    · next w hw =>
      obtain rfl := id_of_visit? hw
      exact settled_conclusion h _
    · next hw => exact standing_of_none hw
  | overflowed y =>
    obtain rfl : y = v := by simpa [Gateway.Effect.concludes] using hends
    simp only [follow]
    split
    · next w hw =>
      obtain rfl := id_of_visit? hw
      exact settled_startWaiting ((keeps_erase r w.id).distinct h.distinct)
        (standing_of_none visit?_erase_self)
    · next hw => exact standing_of_none hw
  | _ => cases hends

/-- What is followed is what happened at the station, for what follows it is not followed again. -/
theorem mem_client_of_followed (h : r.Tied)
    (hrequest : ∀ x timeout, e = .request x timeout → r.Exchanges x g) {g' : String}
    (hf : .station g' f ∈ (r.station g e).2) (hfollowed : f.isFollowed = true) :
    g' = g ∧ f ∈ (r.client.step g e).2 := by
  rcases station_cases h g e hrequest with ⟨-, heq⟩ | ⟨f₀, x, -, hx, -, hleaves, heq⟩
  · rw [heq] at hf
    exact mem_effects_atStation hf
  · have hat := h.atStation g e hrequest
    rw [heq, andThen_eq, List.mem_append] at hf
    rcases hf with hf | hf
    · exact mem_effects_atStation hf
    · exact absurd hfollowed (by simp [unfollowed_follow hat hx hleaves g' f hf])

/-- An exchange that ends at its station is settled when the relay has gone on. -/
theorem settled_station (h : r.Tied) (htied : ∀ x timeout, e = .request x timeout → r.Exchanges x g)
    (hf : f ∈ (r.client.step g e).2) (hends : f.concludes v = true) :
    (r.station g e).1.standing v = .settled := by
  have hin : f ∈ (r.client.step g e).2.filter Gateway.Effect.isFollowed :=
    List.mem_filter.mpr ⟨hf, Gateway.Effect.isFollowed_of_concludes hends⟩
  -- The end is the one effect that is followed.
  rcases station_cases h g e htied with ⟨hnone, -⟩ | ⟨f₀, x, hone, hx, hx', hleaves, heq⟩
  · exact absurd hin (by simp [hnone])
  · obtain rfl : f = f₀ := by simpa [hone] using hin
    rw [heq, andThen_eq]
    exact settled_follow (h.atStation g e htied) hends

/-- A relay at whose station an event happens: the relay itself, or one in which a visit has become
an exchange that asks for its lease. Its visits run, and are answered, as those of the relay. -/
structure Acts (r : Relay) (ev : RelayEvent) (g : String) (r' : Relay) (e : Gateway.Event) :
    Prop where
  tied : r'.Tied
  request : ∀ x timeout, e = .request x timeout → r'.Exchanges x g
  step : r.step ev = r'.station g e
  engine : r'.engine = r.engine
  visits : ∀ v w', r'.visit? v = some w' →
    ∃ w, r.visit? v = some w ∧ w'.isRunning = w.isRunning ∧ w'.method = w.method

/-- **What is followed happens at a station.** -/
theorem acts_of_followed (h : r.Tied) {ev : RelayEvent} (hout : ev.isOutside = true)
    (hf : .station g f ∈ (r.step ev).2) (hfollowed : f.isFollowed = true) :
    ∃ r' e, r.Acts ev g r' e ∧ f ∈ (r'.client.step g e).2 := by
  have hnot : ∀ {effects}, Unfollowed effects → .station g f ∉ effects := fun h' hf =>
    absurd hfollowed (by simp [h' g f hf])
  have hmove := step_move r ev hout
  generalize hstep : r.step ev = o at hmove hf
  -- Only there something happens after which the relay has to go on.
  cases hmove with
  | still | grow | elapse => cases hf
  | arrive u head hnew =>
    have hkeeps := keeps_append r ⟨u, head.method, .waiting head⟩ hnew
    exact absurd hf (hnot (unfollowed_startWaiting (hkeeps.distinct h.distinct)))
  | refuse ev w due a body f =>
    have hdistinct := (keeps_conclude r w (.error f)).distinct h.distinct
    exact absurd hf (hnot ((unfollowed_conclude r w _).append (unfollowed_startWaiting hdistinct)))
  | exchange w due a body i t s hw hphase =>
    have hkeeps := keeps_setPhase r w.id (.exchanging due t.name i.message)
    have hset := h.of_keeps hkeeps (h.hasNoExchange_of_phase hw (by simp [hphase]))
    have hrequest := exchanges_of_request (g := t.name) hw due i.message t.requestTimeout
    obtain ⟨rfl, hmem⟩ := mem_client_of_followed hset hrequest hf hfollowed
    refine ⟨_, _, ⟨hset, hrequest, hstep, rfl, fun v w' hw' => ?_⟩, hmem⟩
    rw [visit?_setPhase] at hw'
    obtain ⟨u, hu, rfl⟩ := Option.map_eq_some_iff.mp hw'
    refine ⟨u, hu, ?_⟩
    split
    · next heq =>
      -- An upload runs like the exchange that it becomes.
      subst heq
      obtain rfl := Option.some.inj (hw.symm.trans hu)
      exact ⟨by simp [Visit.isRunning, hphase], rfl⟩
    · exact ⟨rfl, rfl⟩
  | abandon ev w answer hw hanswer =>
    exact absurd hf (hnot (((unfollowed_abandon h w).append hanswer.unfollowed).append
      (unfollowed_startWaiting (Quiet.distinct_abandon h.distinct w))))
  | station g' e hown =>
    obtain ⟨rfl, hmem⟩ := mem_client_of_followed h (exchanges_of_outside hown) hf hfollowed
    exact ⟨r, e, ⟨h, exchanges_of_outside hown, hstep, rfl, fun v w hw => ⟨w, hw, rfl, rfl⟩⟩, hmem⟩

/-- **An exchange that is answered or fails is settled.** -/
theorem settled_of_concludes (h : r.Tied) {ev : RelayEvent} (hout : ev.isOutside = true)
    (hf : .station g f ∈ (r.step ev).2) (hends : f.concludes v = true) :
    (r.step ev).1.standing v = .settled := by
  obtain ⟨r', e, hacts, hmem⟩ :=
    acts_of_followed h hout hf (Gateway.Effect.isFollowed_of_concludes hends)
  rw [hacts.step]
  exact settled_station hacts.tied hacts.request hmem hends

/-! ## What settles a message -/

/-- What settles the message of a visit: it came to an end, or the visit did. A word that comes after
the deadline is not heard; the deadline settles the message then. -/
inductive Settles (v : Nat) (r : Relay) : RelayEvent → Prop where
  /-- The gateway began to answer, with any status. -/
  | answered (g : String) (s : Station) (c : Connection) (t : Terms) (w : WireRequest)
      (again : Bool) (status : Http.Status) (contentType : Option String)
      (hs : r.client.station? g = some s) (hp : s.phase? v = some (.offering c t w again))
      (htime : s.now ≤ t.deadline.moment) : Settles v r (.station g (.answered v status contentType))
  /-- The connection failed, and the request did not come back. -/
  | failed (g : String) (s : Station) (c : Connection) (t : Terms) (w : WireRequest) (again : Bool)
      (error : String) (hs : r.client.station? g = some s)
      (hp : s.phase? v = some (.offering c t w again)) (htime : s.now ≤ t.deadline.moment) :
      Settles v r (.station g (.failed v error))
  /-- The body of the reply broke off. -/
  | cutOff (g : String) (s : Station) (c : Connection) (t : Terms) (status : Http.Status)
      (contentType : Option String) (body : ByteArray) (error : String)
      (hs : r.client.station? g = some s)
      (hp : s.phase? v = some (.reading c t status contentType body))
      (htime : s.now ≤ t.deadline.moment) : Settles v r (.station g (.cutOff v error))
  /-- The deadline passed before an answer came. -/
  | timedOut (g : String) (s : Station) (c : Connection) (t : Terms) (w : WireRequest)
      (again : Bool) (draw : Nat) (hs : r.client.station? g = some s)
      (hp : s.phase? v = some (.offering c t w again)) (htime : t.deadline.moment ≤ s.now) :
      Settles v r (.station g (.expire v draw))
  /-- The exchange ended, in whatever way. -/
  | concluded (ev : RelayEvent) (g : String) (f : Gateway.Effect)
      (hf : .station g f ∈ (r.step ev).2) (hends : f.concludes v = true) : Settles v r ev
  /-- The visit is gone. -/
  | gone (ev : RelayEvent) (hgone : (r.step ev).1.visit? v = none) : Settles v r ev

/-- An effect at the station of an event is one of the step. -/
theorem mem_step_of_station {s : Station} (hs : r.client.station? g = some s)
    (hf : f ∈ (s.step e).2) : .station g f ∈ (r.station g e).2 := by
  rw [station, andThen_eq, effects_atStation, Gateway.Client.effects_step hs]
  exact List.mem_append_left _ (List.mem_map_of_mem hf)

/-- A reply that begins leaves nothing to offer. -/
theorem settled_of_answered (h : r.Tied) {s : Station} {c : Connection} {t : Terms}
    {w : WireRequest} {again : Bool} {status : Http.Status} {contentType : Option String}
    (hs : r.client.station? g = some s) (hp : s.phase? v = some (.offering c t w again))
    (htime : s.now ≤ t.deadline.moment) :
    (r.step (.station g (.answered v status contentType))).1.standing v = .settled := by
  have hstep : s.step (.answered v status contentType) =
      (s.setPhase v (.reading c t status contentType .empty), []) := by
    rw [Station.step_eq_act (x := v) rfl, hp]
    simp [Station.isWord, Station.isOverdue, Nat.not_lt.mpr htime, Station.act]
  -- Nobody is told that an answer begins, so the relay does not go on.
  have hquiet : (r.client.step g (.answered v status contentType)).2.filter
      Gateway.Effect.isFollowed = [] := by
    rw [Gateway.Client.effects_step hs, hstep]
    rfl
  have hv : r.Exchanges v g := h.owned g s v _ hs hp
  show (r.station g (.answered v status contentType)).1.standing v = .settled
  rcases station_cases h g (.answered v status contentType) (by simp) with
    ⟨-, heq⟩ | ⟨f, x, hone, -⟩
  · have hv' : (r.atStation g (.answered v status contentType)).1.Exchanges v g := hv
    rw [heq, standing_of_exchanges hv', client_atStation, Gateway.Client.station?_step_self hs,
      hstep, Option.bind_some, Station.phase?_setPhase_self hp]
    rfl
  · rw [hquiet] at hone
    cases hone

/-- **Whatever settles a message leaves nothing to offer.** -/
theorem Settles.settled (h : r.Tied) {ev : RelayEvent} (hout : ev.isOutside = true)
    (hsettles : Settles v r ev) : (r.step ev).1.standing v = .settled := by
  cases hsettles with
  -- Nobody is told of a reply that begins; of the three failures behind it the station tells.
  | answered g s c t w again status contentType hs hp htime => exact settled_of_answered h hs hp htime
  | failed g s c t w again error hs hp htime =>
    have hf : Gateway.Effect.failed v (.gatewayUnreachable error) ∈ (s.step (.failed v error)).2 := by
      rw [Station.step_eq_act (x := v) rfl, hp]
      simp [Station.isWord, Station.isOverdue, Nat.not_lt.mpr htime, Station.act, Station.discard,
        Station.spend]
    exact settled_of_concludes h hout (mem_step_of_station hs hf) (by simp [Gateway.Effect.concludes])
  | cutOff g s c t status contentType body error hs hp htime =>
    have hf : Gateway.Effect.failed v (.gatewayError error) ∈ (s.step (.cutOff v error)).2 := by
      rw [Station.step_eq_act (x := v) rfl, hp]
      simp [Station.isWord, Station.isOverdue, Nat.not_lt.mpr htime, Station.act, Station.discard,
        Station.spend]
    exact settled_of_concludes h hout (mem_step_of_station hs hf) (by simp [Gateway.Effect.concludes])
  | timedOut g s c t w again draw hs hp htime =>
    have hf : Gateway.Effect.failed v .gatewayTimeout ∈ (s.step (.expire v draw)).2 := by
      rw [Station.step_eq_act (x := v) rfl, hp]
      simp [Station.isWord, Station.act, Station.isDue, Station.timer?, Gateway.Phase.timer?,
        Gateway.Phase.deadline?, htime, Station.expire, Gateway.Phase.connection?, Station.discard,
        Station.spend]
    exact settled_of_concludes h hout (mem_step_of_station hs hf) (by simp [Gateway.Effect.concludes])
  | concluded ev g f hf hends => exact settled_of_concludes h hout hf hends
  -- A visit that is gone has no message to offer.
  | gone ev hgone => exact standing_of_none hgone

end Relay

end ObliviousRelay
