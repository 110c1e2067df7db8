import ObliviousRelay.Proofs.Relay.Moves

/-!
# Visits and their exchanges

The exchange of a visit bears the visit's number and lives no longer than the visit is exchanging:
whatever exchange a station has belongs to a visit that is an exchange with just this gateway. So
what happens at one station concerns one visit at one gateway.

- `Relay.Tied` is the invariant; `Tied.step` and `Tied.occur` say that everything from outside keeps
  it, even time that passes although something is due.
- `Course.followed`: at most one thing that a station brings about makes the relay go on.
-/

namespace ObliviousRelay

open Gateway (Station Effect)
open Gateway.Station (Course isAtRest)

/-! ## What the relay goes on after -/

/-- Whether the relay goes on after an effect at a station. -/
def Gateway.Effect.isFollowed : Effect → Bool
  | .leased _ _ | .replied _ _ _ | .failed _ _ | .overflowed _ => true
  | _ => false

/-- In which phase an exchange is left by an effect after which the relay goes on. -/
def Gateway.Effect.Leaves (f : Effect) (q : Option Gateway.Phase) : Prop :=
  match f with
  | .leased _ _ => ∃ c t, q = some (.held c t) ∧ t.reusable = false
  | .replied _ _ _ | .failed _ _ => isAtRest q = true
  | .overflowed _ => q = none
  | _ => True

namespace Gateway.Station

variable {s : Station} {x : Nat} {e : Event} {effects : List Effect}

theorem filter_isFollowed_finish (s : Station) (x : Nat) :
    (s.finish x).2.filter Effect.isFollowed = [] := by
  rcases s.effects_finish x with heq | ⟨y, heq⟩ <;> rw [heq] <;> rfl

theorem filter_isFollowed_closed (cs : List Connection) :
    (cs.map (Effect.closed ·.serial)).filter Effect.isFollowed = [] := by
  simp [Effect.isFollowed]

theorem GivesUp.filter_isFollowed {dial : Dial} {f : Failure} (h : GivesUp s x e dial effects f) :
    effects.filter Effect.isFollowed = [] := by
  cases h <;> rfl

theorem Ending.filter_isFollowed {p : Phase} {disposal : Outcome} {tail : List Effect}
    (h : Ending s x e p disposal tail) : disposal.2.filter Effect.isFollowed = [] := by
  cases h with
  | releaseClean c t hclean =>
    unfold putAside
    split <;> rfl
  | drop p hslot =>
    rw [closeOwn, closeAll_eq]
    exact filter_isFollowed_closed _
  | giveUp d hgives => exact hgives.filter_isFollowed
  | releaseUsed | releaseSpent | breakDown => rfl

/-- **One course has at most one effect after which the relay goes on.** It is about the exchange of
the event, which it leaves in a fitting phase. -/
theorem Course.followed {p q : Option Phase} (h : Course s x e p q effects) :
    effects.filter Effect.isFollowed = [] ∨
      ∃ f, effects.filter Effect.isFollowed = [f] ∧ f.about? = some x ∧ f.Leaves q := by
  cases h with
  | still | accept | enqueue | withdraw => exact .inl rfl
  | dead m => exact .inr ⟨_, rfl, rfl, rfl⟩
  | refuse timeout => exact .inr ⟨_, rfl, rfl, rfl⟩
  | overdue timeout draw => exact .inr ⟨_, rfl, rfl, rfl⟩
  | reuse timeout c unusable =>
    -- The closing of the unusable connections before the lease is not followed.
    refine .inr ⟨.leased x true, ?_, rfl, c, _, rfl, rfl⟩
    rw [List.filter_append, filter_isFollowed_closed]
    rfl
  | dial timeout stage unusable =>
    left
    rw [List.filter_append, filter_isFollowed_closed]
    rfl
  | pass hpass =>
    cases hpass with
    | unsendable c t m f hf => exact .inr ⟨_, rfl, rfl, rfl⟩
    | complete c t status contentType body hnow => exact .inr ⟨_, rfl, rfl, rfl⟩
    | _ => exact .inl rfl
  | loss hloss =>
    cases hloss with
    | discard => exact .inr ⟨_, rfl, rfl, rfl⟩
    | stale | returned => exact .inl rfl
  | gain d purpose attempt bound stops hgain =>
    cases hgain with
    | lease => exact .inr ⟨.leased x false, rfl, rfl, _, _, rfl, rfl⟩
    | unsendable m f hf => exact .inr ⟨.failed x f, rfl, rfl, rfl⟩
    | offer | offerAgain => exact .inl rfl
  | @surrender e p before f hsurrender =>
    refine .inr ⟨.failed x f, ?_, rfl, rfl⟩
    obtain ⟨d, purpose, hpurpose, hgives⟩ := hsurrender
    rw [List.filter_append, hgives.filter_isFollowed]
    rfl
  | @ending e p disposal tail hending =>
    -- Only what is seen after the slot was given back can be followed.
    rw [List.filter_append, List.filter_append, hending.filter_isFollowed, filter_isFollowed_finish]
    cases hending with
    | giveUp d hgives => exact .inr ⟨_, rfl, rfl, rfl⟩
    | breakDown => exact .inr ⟨_, rfl, rfl, rfl⟩
    | releaseClean | releaseUsed | releaseSpent | drop => exact .inl rfl

theorem AttemptFails.not_isOwn {stops : Timing.Expired} {error : String} {draw : Nat}
    (h : AttemptFails x e stops error draw) : e.isOwn = false := by
  cases h <;> rfl

theorem GivesUp.not_isOwn {dial : Dial} {f : Failure} (h : GivesUp s x e dial effects f) :
    e.isOwn = false := by
  cases h with
  | exhausted attempt bound hfails hnone => exact hfails.not_isOwn
  | deadline | pause => rfl

theorem Discards.not_isOwn {p : Phase} {c : Connection} {f : Failure}
    (h : Discards s x e p c f) : e.isOwn = false := by
  cases h <;> rfl

/-- After what the relay itself asks of an exchange in progress it does not go on, unless it sends on
a lease that has lost its connection. -/
theorem Course.filter_isFollowed {p q : Option Phase} (h : Course s x e p q effects)
    (hown : e.isOwn = true) (hrequest : ∀ timeout, e ≠ .request x timeout)
    (hsend : ∀ m, e = .send x m → p ≠ some .spent) : effects.filter Effect.isFollowed = [] := by
  have hnot : e.isOwn = false → effects.filter Effect.isFollowed = [] := fun hno =>
    absurd (hno.symm.trans hown) (by simp)
  cases h with
  | still | withdraw => rfl
  -- To send on a lease without connection would fail at once.
  | dead m => exact absurd rfl (hsend m rfl)
  | accept timeout | enqueue timeout | refuse timeout => exact absurd rfl (hrequest timeout)
  | overdue | reuse | dial | gain => exact hnot rfl
  | pass hpass =>
    cases hpass with
    | send => rfl
    | pause d purpose attempt bound delay length hfails => exact hnot hfails.not_isOwn
    | _ => exact hnot rfl
  | loss hloss =>
    cases hloss with
    | stale | returned => exact hnot rfl
    | discard hdiscards => exact hnot hdiscards.not_isOwn
  | surrender hsurrender =>
    obtain ⟨d, purpose, hpurpose, hgives⟩ := hsurrender
    exact hnot hgives.not_isOwn
  | ending hending =>
    rw [List.filter_append, List.filter_append, hending.filter_isFollowed, filter_isFollowed_finish]
    cases hending with
    | releaseClean | releaseUsed | releaseSpent | drop => rfl
    | giveUp d hgives => exact absurd (hgives.not_isOwn.symm.trans hown) (by simp)
    | breakDown d purpose attempt bound delay hfails =>
      exact absurd (hfails.not_isOwn.symm.trans hown) (by simp)

/-- What makes the relay go on belongs to an exchange that was in progress or asked for a lease. -/
theorem Course.started {q : Option Phase} (h : Course s x e none q effects) {f : Effect}
    (hf : f ∈ effects) : ∃ timeout, e = .request x timeout := by
  cases h with
  | still => exact absurd hf List.not_mem_nil
  | accept timeout | enqueue timeout | refuse timeout => exact ⟨timeout, rfl⟩

/-- An event that is about no exchange brings nothing about. -/
theorem effects_of_about_none (he : e.about? = none) : (s.step e).2 = [] := by
  cases e <;> simp only [Event.about?, subject?, reduceCtorEq] at he
  case lose serial => rfl
  case elapse duration =>
    simp only [step]
    split <;> rfl

end Gateway.Station

/-! ## Ties -/

namespace Relay

variable {r r' : Relay} {u v x : Nat} {w : Visit} {g : String} {e : Gateway.Event}

/-- A visit is an exchange with a gateway. -/
def Exchanges (r : Relay) (v : Nat) (g : String) : Prop :=
  ∃ w due m, r.visit? v = some w ∧ w.phase = .exchanging due g m

/-- No station has an exchange of a number. -/
def HasNoExchange (r : Relay) (v : Nat) : Prop :=
  ∀ g s, r.client.station? g = some s → s.phase? v = none

/-- Every exchange belongs to a visit that is an exchange with its gateway. -/
structure Tied (r : Relay) : Prop where
  distinct : r.HasDistinctVisits
  slots : ∀ g s, r.client.station? g = some s → s.SlotAccount
  owned : ∀ g s x p, r.client.station? g = some s → s.phase? x = some p → r.Exchanges x g

namespace Tied

/-- A visit is an exchange with one gateway at a time. -/
theorem exchanges_unique {g' : String} (h : r.Exchanges v g) (h' : r.Exchanges v g') : g = g' := by
  obtain ⟨w, due, m, hw, hphase⟩ := h
  obtain ⟨w', due', m', hw', hphase'⟩ := h'
  obtain rfl := Option.some.inj (hw.symm.trans hw')
  rw [hphase, VisitPhase.exchanging.injEq] at hphase'
  exact hphase'.2.1

/-- A visit that is no exchange yet has none. -/
theorem hasNoExchange (h : r.Tied) (hv : ∀ g, ¬ r.Exchanges v g) : r.HasNoExchange v := by
  intro g s hs
  cases hp : s.phase? v with
  | none => rfl
  | some p => exact absurd (h.owned g s v p hs hp) (hv g)

/-- A visit whose exchange is gone from its own gateway has none. -/
theorem hasNoExchange_of_exchanges (h : r.Tied) (hv : r.Exchanges v g)
    (hgone : ∀ s, r.client.station? g = some s → s.phase? v = none) : r.HasNoExchange v := by
  intro g' s hs
  cases hp : s.phase? v with
  | none => rfl
  | some p =>
    obtain rfl := exchanges_unique hv (h.owned g' s v p hs hp)
    exact absurd (hgone s hs) (by simp [hp])

/-! ## Operations keep the ties -/

/-- An operation on a visit without an exchange. -/
theorem of_keeps (h : r.Tied) (hkeeps : Keeps r r' v) (hv : r.HasNoExchange v) : r'.Tied where
  distinct := hkeeps.distinct h.distinct
  slots g s hs := by
    rw [hkeeps.client] at hs
    exact h.slots g s hs
  owned g s x p hs hp := by
    rw [hkeeps.client] at hs
    -- The visit of the operation has no exchange, so the exchange belongs to another one.
    have hne : x ≠ v := fun heq => absurd (hv g s hs) (by simp [← heq, hp])
    obtain ⟨w, due, m, hw, hphase⟩ := h.owned g s x p hs hp
    exact ⟨w, due, m, (hkeeps.others x hne).trans hw, hphase⟩

/-- To give waiting visits their turns. -/
theorem of_advances (h : r.Tied) (hadv : Advances r r') : r'.Tied where
  distinct := hadv.distinct h.distinct
  slots g s hs := by
    rw [hadv.client] at hs
    exact h.slots g s hs
  owned g s x p hs hp := by
    rw [hadv.client] at hs
    obtain ⟨w, due, m, hw, hphase⟩ := h.owned g s x p hs hp
    -- Who is an exchange does not wait, and so is not moved.
    rcases hadv.visits x with hsame | ⟨⟨w', head, hw', hwaiting⟩, -⟩
    · exact ⟨w, due, m, hsame.trans hw, hphase⟩
    · obtain rfl := Option.some.inj (hw.symm.trans hw')
      rw [hphase] at hwaiting
      cases hwaiting

theorem startWaiting (h : r.Tied) : r.startWaiting.1.Tied :=
  h.of_advances (startWaiting_advances h.distinct).1

theorem conclude (h : r.Tied) (result : Except Failure Message) (hv : r.HasNoExchange w.id) :
    (r.conclude w result).1.Tied :=
  h.of_keeps (keeps_conclude r w result) hv

/-- An event at a station. Only an exchange of the visit itself may be begun. -/
theorem atStation (h : r.Tied) (g : String) (e : Gateway.Event)
    (hrequest : ∀ x timeout, e = .request x timeout → r.Exchanges x g) :
    (r.atStation g e).1.Tied where
  distinct := h.distinct
  slots g' s' hs' := by
    rw [client_atStation] at hs'
    by_cases hg : g' = g
    · subst hg
      cases hs : r.client.station? g' with
      | none =>
        rw [Gateway.Client.step_of_none hs, hs] at hs'
        cases hs'
      | some s =>
        rw [Gateway.Client.station?_step_self hs] at hs'
        obtain rfl := Option.some.inj hs'
        exact (h.slots g' s hs).transition (Station.step_transition s e)
    · rw [Gateway.Client.station?_step_of_ne hg] at hs'
      exact h.slots g' s' hs'
  owned g' s' x p' hs' hp' := by
    rw [client_atStation] at hs'
    show r.Exchanges x g'
    by_cases hg : g' = g
    · subst hg
      cases hs : r.client.station? g' with
      | none =>
        rw [Gateway.Client.step_of_none hs, hs] at hs'
        cases hs'
      | some s =>
        rw [Gateway.Client.station?_step_self hs] at hs'
        obtain rfl := Option.some.inj hs'
        cases hp : s.phase? x with
        | some p => exact h.owned g' s x p hs hp
        | none =>
          -- An exchange that was not there before has just asked for a lease.
          have hfate := Station.step_fate (h.slots g' s hs) e x
          rw [hp, hp'] at hfate
          generalize (s.step e).2 = effects at hfate
          cases hfate with
          | own hcourse =>
            cases hcourse with
            | accept timeout => exact hrequest x timeout rfl
            | enqueue timeout => exact hrequest x timeout rfl
    · rw [Gateway.Client.station?_step_of_ne hg] at hs'
      exact h.owned g' s' x p' hs' hp'

/-- The end of a visit's exchange: its lease is given back, and the visit answered. -/
theorem conclusion (h : r.Tied) (result : Except Failure Message) (hv : r.Exchanges w.id g)
    (hrest : ∀ s, r.client.station? g = some s → isAtRest (s.phase? w.id) = true) :
    (r.conclusion g w result).1.Tied := by
  have hreleased : (r.atStation g (.release w.id)).1.Tied := h.atStation g _ (by simp)
  -- The visit is still an exchange with this gateway, which has none of its number any more.
  have hgone : (r.atStation g (.release w.id)).1.HasNoExchange w.id := by
    apply hreleased.hasNoExchange_of_exchanges (g := g) hv
    intro s' hs'
    rw [client_atStation] at hs'
    cases hs : r.client.station? g with
    | none =>
      rw [Gateway.Client.step_of_none hs, hs] at hs'
      cases hs'
    | some s =>
      rw [Gateway.Client.station?_step_self hs] at hs'
      obtain rfl := Option.some.inj hs'
      exact Station.gone_of_release (h.slots g s hs) (hrest s hs)
  exact (hreleased.conclude result hgone).startWaiting

/-- A visit that breaks down after its exchange is gone. -/
theorem breakOff (h : r.Tied) (hv : r.HasNoExchange w.id) : (r.breakOff w).1.Tied :=
  (h.of_keeps (keeps_erase r w.id) hv).startWaiting

/-- What the relay does after an effect that leaves its exchange in a fitting phase. -/
theorem follow (h : r.Tied) {f : Effect} (hx : f.about? = some x) (hv : r.Exchanges x g)
    (hleaves : ∀ s, r.client.station? g = some s → f.Leaves (s.phase? x)) :
    (r.follow g f).1.Tied := by
  cases f with
  -- A lease is used and its exchange goes on; a reply and the two failures end it.
  | leased y reused =>
    simp only [Relay.follow]
    split
    · exact h.atStation g _ (by simp)
    · exact h
  | replied y reply reused =>
    obtain rfl : y = x := Option.some.inj hx
    simp only [Relay.follow]
    split
    · next w hw =>
      obtain rfl := id_of_visit? hw
      exact h.conclusion _ hv hleaves
    · exact h
  | failed y f =>
    obtain rfl : y = x := Option.some.inj hx
    simp only [Relay.follow]
    split
    · next w hw =>
      obtain rfl := id_of_visit? hw
      exact h.conclusion _ hv hleaves
    · exact h
  | overflowed y =>
    obtain rfl : y = x := Option.some.inj hx
    simp only [Relay.follow]
    split
    · next w hw =>
      obtain rfl := id_of_visit? hw
      exact h.breakOff (h.hasNoExchange_of_exchanges hv hleaves)
    · exact h
  | _ => exact h

end Tied

/-! ## Going on -/

/-- Nothing follows from effects after which the relay does not go on. -/
theorem follow_of_not_isFollowed {f : Effect} (h : f.isFollowed = false) :
    r.follow g f = (r, []) := by
  cases f <;> first | rfl | simp [Gateway.Effect.isFollowed] at h

theorem forAll_follow (r : Relay) (g : String) (effects : List Effect) :
    r.forAll effects (·.follow g ·) =
      r.forAll (effects.filter Gateway.Effect.isFollowed) (·.follow g ·) := by
  -- The relay passes by what is not followed, one effect after the other.
  induction effects generalizing r with
  | nil => rfl
  | cons f rest ih =>
    cases hf : f.isFollowed with
    | false =>
      rw [forAll_cons, follow_of_not_isFollowed hf, List.filter_cons_of_neg (by simp [hf]), ← ih]
      rfl
    | true =>
      rw [List.filter_cons_of_pos hf, forAll_cons, forAll_cons, andThen_eq, andThen_eq, ih]

/-- **What happens at a station and after it.** Either the relay does not go on, or it goes on once,
for the exchange of the event, which belongs to a visit. -/
theorem station_cases (h : r.Tied) (g : String) (e : Gateway.Event)
    (hrequest : ∀ x timeout, e = .request x timeout → r.Exchanges x g) :
    ((r.client.step g e).2.filter Gateway.Effect.isFollowed = [] ∧
      r.station g e = r.atStation g e) ∨
    ∃ f x, (r.client.step g e).2.filter Gateway.Effect.isFollowed = [f] ∧ f.about? = some x ∧
      r.Exchanges x g ∧
      (∀ s, (r.atStation g e).1.client.station? g = some s → f.Leaves (s.phase? x)) ∧
      r.station g e = (r.atStation g e).andThen (·.follow g f) := by
  have hquiet : (r.client.step g e).2.filter Gateway.Effect.isFollowed = [] →
      r.station g e = r.atStation g e := by
    intro hnone
    rw [station, andThen_eq, forAll_follow, hnone, forAll_nil, List.append_nil]
  cases hs : r.client.station? g with
  | none =>
    have hnone : (r.client.step g e).2.filter Gateway.Effect.isFollowed = [] := by
      rw [Gateway.Client.step_of_none hs]
      rfl
    exact .inl ⟨hnone, hquiet hnone⟩
  | some s =>
    have heffects := Gateway.Client.effects_step (e := e) hs
    cases he : e.about? with
    | none =>
      have hnone : (r.client.step g e).2.filter Gateway.Effect.isFollowed = [] := by
        rw [heffects, Station.effects_of_about_none he]
        rfl
      exact .inl ⟨hnone, hquiet hnone⟩
    | some x =>
      -- The event is about one exchange, whose course tells all that is followed.
      have hcourse := (Station.step_transition s e).course (h.slots g s hs) he
      rw [← heffects] at hcourse
      rcases hcourse.followed with hnone | ⟨f, hone, hx, hleaves⟩
      · exact .inl ⟨hnone, hquiet hnone⟩
      · refine .inr ⟨f, x, hone, hx, ?_, fun s' hs' => ?_, ?_⟩
        · cases hp : s.phase? x with
          | some p => exact h.owned g s x p hs hp
          | none =>
            rw [hp] at hcourse
            have hmem : f ∈ (r.client.step g e).2 :=
              List.mem_of_mem_filter (hone ▸ List.mem_singleton_self f)
            -- An exchange that began just now asked for a lease, so its visit is an exchange.
            obtain ⟨timeout, rfl⟩ := hcourse.started hmem
            exact hrequest x timeout rfl
        · rw [client_atStation, Gateway.Client.station?_step_self hs] at hs'
          obtain rfl := Option.some.inj hs'
          exact hleaves
        · rw [station, andThen_eq, forAll_follow, hone, forAll_cons, andThen_eq, forAll_nil]
          simp

theorem Tied.station (h : r.Tied) (g : String) (e : Gateway.Event)
    (hrequest : ∀ x timeout, e = .request x timeout → r.Exchanges x g) :
    (r.station g e).1.Tied := by
  have hat := h.atStation g e hrequest
  rcases station_cases h g e hrequest with ⟨-, heq⟩ | ⟨f, x, -, hx, hv, hleaves, heq⟩
  · rw [heq]
    exact hat
  · rw [heq]
    exact hat.follow hx hv hleaves

/-! ## Every event keeps the ties -/

theorem phase?_step_elapse (s : Station) (duration x : Nat) :
    (s.step (.elapse duration)).1.phase? x = s.phase? x := by
  simp only [Station.step]
  split <;> rfl

/-- The exchange of a visit that begins is asked for when the visit is an exchange already. -/
theorem exchanges_setPhase (hw : r.visit? v = some w) (due : Nat) (m : Message) :
    (r.setPhase v (.exchanging due g m)).Exchanges v g := by
  refine ⟨{ w with phase := .exchanging due g m }, due, m, ?_, rfl⟩
  rw [visit?_setPhase, hw]
  simp

/-- What asks for the lease of a visit finds it an exchange. -/
theorem exchanges_of_request (hw : r.visit? w.id = some w) (due : Nat) (m : Message)
    (allowed : Nat) : ∀ x timeout, Gateway.Event.request w.id allowed = .request x timeout →
      (r.setPhase w.id (.exchanging due g m)).Exchanges x g := by
  intro x timeout hx
  obtain ⟨rfl, -⟩ := Gateway.Event.request.inj hx
  exact exchanges_setPhase hw due m

/-- What comes from outside asks for no lease. -/
theorem exchanges_of_outside (hown : e.isOwn = false) :
    ∀ x timeout, e = .request x timeout → r.Exchanges x g := by
  intro x timeout hx
  rw [hx] at hown
  cases hown

namespace Tied

/-- A visit that ends with its exchange. -/
theorem abandon (h : r.Tied) (hw : r.visit? w.id = some w) : (r.abandon w).1.Tied := by
  unfold Relay.abandon
  split
  · next due gateway m hphase =>
    have hv : r.Exchanges w.id gateway := ⟨w, due, m, hw, hphase⟩
    have hdropped : (r.atStation gateway (.drop w.id)).1.Tied := h.atStation gateway _ (by simp)
    have hgone : (r.atStation gateway (.drop w.id)).1.HasNoExchange w.id := by
      apply hdropped.hasNoExchange_of_exchanges (g := gateway) hv
      intro s' hs'
      rw [client_atStation] at hs'
      cases hs : r.client.station? gateway with
      | none =>
        rw [Gateway.Client.step_of_none hs, hs] at hs'
        cases hs'
      | some s =>
        rw [Gateway.Client.station?_step_self hs] at hs'
        obtain rfl := Option.some.inj hs'
        cases hp : s.phase? w.id with
        | some p => exact Station.gone_of_drop (h.slots gateway s hs) hp
        | none => rw [Station.step_eq_act (x := w.id) rfl, hp]; exact hp
    -- It does not matter that the visit is taken away before its exchange is dropped.
    show ((r.atStation gateway (.drop w.id)).1.erase w.id).Tied
    exact hdropped.of_keeps (keeps_erase _ w.id) hgone
  · next hphase =>
    refine h.of_keeps (keeps_erase r w.id) (h.hasNoExchange fun g ⟨w', due, m, hw', hphase'⟩ => ?_)
    obtain rfl := Option.some.inj (hw.symm.trans hw')
    exact hphase due g m hphase'

/-- A visit in another phase than exchanging has no exchange. -/
theorem hasNoExchange_of_phase (h : r.Tied) (hw : r.visit? v = some w)
    (hphase : ∀ due g m, w.phase ≠ .exchanging due g m) : r.HasNoExchange v :=
  h.hasNoExchange fun g ⟨w', due, m, hw', hphase'⟩ => by
    obtain rfl := Option.some.inj (hw.symm.trans hw')
    exact hphase due g m hphase'

theorem hasNoExchange_of_none (h : r.Tied) (hw : r.visit? v = none) : r.HasNoExchange v :=
  h.hasNoExchange fun g ⟨w', due, m, hw', hphase'⟩ => by
    rw [hw] at hw'
    cases hw'

theorem elapse (h : r.Tied) (now duration : Nat) :
    ({ r with now, client := r.client.elapse duration } : Relay).Tied where
  distinct := h.distinct
  slots g s hs := by
    rw [Gateway.Client.station?_elapse] at hs
    obtain ⟨s₀, hs₀, rfl⟩ := Option.map_eq_some_iff.mp hs
    exact (h.slots g s₀ hs₀).transition (Station.step_transition s₀ _)
  owned g s x p hs hp := by
    rw [Gateway.Client.station?_elapse] at hs
    obtain ⟨s₀, hs₀, rfl⟩ := Option.map_eq_some_iff.mp hs
    rw [phase?_step_elapse] at hp
    exact h.owned g s₀ x p hs₀ hp

/-- **Every event from outside keeps the ties.** -/
theorem step (h : r.Tied) (ev : RelayEvent) (hout : ev.isOutside = true) : (r.step ev).1.Tied := by
  have hmove := step_move r ev hout
  generalize r.step ev = o at hmove ⊢
  cases hmove with
  | still => exact h
  | arrive v head hnew =>
    exact (h.of_keeps (keeps_append r ⟨v, head.method, .waiting head⟩ hnew)
      (h.hasNoExchange_of_none hnew)).startWaiting
  | grow w due a body p hw hphase =>
    have hnone := h.hasNoExchange_of_phase hw (by simp [hphase])
    exact h.of_keeps (keeps_setPhase r w.id (.uploading due a (body ++ [p]))) hnone
  | refuse ev w due a body f hw hphase =>
    have hnone := h.hasNoExchange_of_phase hw (by simp [hphase])
    exact (h.conclude _ hnone).startWaiting
  | exchange w due a body i t s hw hphase =>
    have hnone := h.hasNoExchange_of_phase hw (by simp [hphase])
    have hset := h.of_keeps (keeps_setPhase r w.id (.exchanging due t.name i.message)) hnone
    -- The visit is an exchange before a lease is asked for.
    exact hset.station t.name _ (exchanges_of_request hw due i.message t.requestTimeout)
  | abandon ev w answer hw => exact (h.abandon hw).startWaiting
  | station g e hown => exact h.station g e (exchanges_of_outside hown)
  | elapse duration => exact h.elapse _ duration

/-- **Every occurrence from outside keeps the ties.** -/
theorem occur (h : r.Tied) (o : RelayOccurrence) (hout : o.isOutside = true) :
    (r.occur o).1.Tied := by
  cases o with
  | event ev => exact h.step ev hout
  | delay duration =>
    refine ⟨h.distinct, fun g s hs => ?_, fun g s x p hs hp => ?_⟩
    · change (r.client.wait duration).station? g = some s at hs
      rw [Gateway.Client.station?_wait] at hs
      obtain ⟨s₀, hs₀, rfl⟩ := Option.map_eq_some_iff.mp hs
      exact (h.slots g s₀ hs₀).occur (.delay duration)
    · change (r.client.wait duration).station? g = some s at hs
      rw [Gateway.Client.station?_wait] at hs
      obtain ⟨s₀, hs₀, rfl⟩ := Option.map_eq_some_iff.mp hs
      exact h.owned g s₀ x p hs₀ hp

theorem history (h : r.Tied) {os : List RelayOccurrence} (hout : ∀ o ∈ os, o.isOutside = true) :
    (r.history os).1.Tied := by
  induction os generalizing r with
  | nil => exact h
  | cons o rest ih =>
    exact ih (h.occur o (hout o List.mem_cons_self)) fun o' ho => hout o' (List.mem_cons_of_mem _ ho)

end Tied

end Relay

end ObliviousRelay
