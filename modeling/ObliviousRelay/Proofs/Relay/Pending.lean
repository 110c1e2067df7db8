import ObliviousRelay.Proofs.Gateway.EndsBy
import ObliviousRelay.Proofs.Relay.Dues

/-!
# Visits that wait for the end of their exchange

As long as the exchange of a visit is in progress, its client hears nothing, and the clock does not
pass the moment at which the exchange is over at the latest. When it is over the client hears one
word: the relay's own answer, or that the visit is broken off because its exchange broke down.

- `Round.stays_or_concludes`: an exchange in progress stays so, or its end is followed.
- `Relay.heard_of_concludes`: what a client hears of the end of its exchange.
- `Relay.Pending`: a visit waits, until a moment at most; `Pending.step`.
- `Relay.pending_of_exchange`: a visit that has been uploaded comes to wait, or is answered at once.
-/

namespace ObliviousRelay

open Gateway (Station Effect Occurrence Chronicle)
open Gateway.Station (Course EndsBy isAtRest)

namespace Gateway.Station

variable {s : Station} {x : Nat} {e : Event} {p : Phase} {q : Option Phase} {effects : List Effect}

/-- Events about others leave an exchange in progress. -/
theorem exists_phase?_of_others (hs : s.SlotAccount) (hp : s.phase? x = some p)
    (hx : e.about? ≠ some x) : ∃ q, (s.step e).1.phase? x = some q := by
  rcases (step_transition s e).others hs hx with ⟨hsame, -⟩ | ⟨timeout, -, hgranted, -⟩
  · exact ⟨p, hsame.trans hp⟩
  · exact ⟨_, hgranted⟩

/-- **An exchange is over by what is followed**, unless its user ends it. -/
theorem Course.exists_of_quiet (h : Course s x e (some p) q effects) (hown : e.isOwn = false)
    (hquiet : effects.filter Effect.isFollowed = []) : ∃ q', q = some q' := by
  have hnot : ∀ f ∈ effects, f.isFollowed = false := by
    simpa using List.filter_eq_nil_iff.mp hquiet
  cases h with
  -- An exchange stays unless it is the one that the event ends, and then something is followed.
  | still => exact ⟨p, rfl⟩
  | dead | reuse | dial | pass | loss | gain | surrender => exact ⟨_, rfl⟩
  | withdraw => cases hown
  | overdue timeout => exact absurd (hnot (.failed x .gatewayBusy) (by simp)) (by simp [Effect.isFollowed])
  | @ending e p disposal tail hending =>
    cases hending with
    | releaseClean | releaseUsed | releaseSpent | drop => cases hown
    | @giveUp e dial before f d hgives =>
      exact absurd (hnot (.failed x f) (by simp)) (by simp [Effect.isFollowed])
    | breakDown =>
      exact absurd (hnot (.overflowed x) (by simp)) (by simp [Effect.isFollowed])

/-- **A lease that is asked for** is refused at once, or its exchange is in progress. -/
theorem request_cases (hx : s.phase? x = none) (timeout : Nat) :
    .failed x .gatewayBusy ∈ (s.step (.request x timeout)).2 ∨
      ((s.step (.request x timeout)).2.filter Effect.isFollowed = [] ∧
        ∃ q, (s.step (.request x timeout)).1.phase? x = some q) := by
  simp only [step, request, hx, Option.isSome_none, Bool.false_eq_true, if_false]
  split
  · exact .inr ⟨rfl, _, phase?_insert_self (s := s.withSlots _) hx⟩
  · exact .inr ⟨rfl, _, phase?_insert_self (s := s.withSlots _) hx⟩
  · exact .inl (by simp)

end Gateway.Station

/-! ## Exchanges -/

section Rounds

variable {r : Relay} {g : String} {s : Station} {o : RelayOccurrence} {es : List Occurrence}
  {v : Nat} {p : Gateway.Phase}

/-- **An exchange in progress stays so, or its end is followed**, unless its visit ends early. -/
theorem Round.stays_or_concludes (h : Round r g s o es) (hs : s.SlotAccount)
    (hp : s.phase? v = some p) (hstays : o ≠ .event (.leave v)) (hlate : o ≠ .event (.late v)) :
    (∃ q, (s.history es).1.phase? v = some q) ∨
      ∃ f ∈ (s.history es).2, f.concludes v = true := by
  cases h with
  | idle => exact .inl ⟨p, hp⟩
  | told e more hown helapse hreaction =>
    have hstep : (s.step e).1.SlotAccount := hs.transition (Station.step_transition s e)
    rw [Station.history_cons]
    by_cases hv : e.about? = some v
    · have hcourse := (Station.step_transition s e).course hs hv
      rw [hp] at hcourse
      -- What is followed is about the exchange of the event.
      have hend : ∀ {f x}, (s.step e).2.filter Effect.isFollowed = [f] → f.about? = some x →
          (x = v → f.concludes v = true) → ∃ f ∈ (s.step e).2 ++ ((s.step e).1.history more).2,
            f.concludes v = true := by
        intro f x hone hx hends
        have habout := (leaves_of_followed hs hone hx).1
        exact ⟨f, List.mem_append_left _ (List.mem_of_mem_filter (hone ▸ List.mem_singleton_self f)),
          hends (Option.some.inj (habout.symm.trans hv))⟩
      cases hreaction with
      | quiet hquiet => exact .inl (hcourse.exists_of_quiet hown hquiet)
      | use x reused w due m hone =>
        obtain ⟨habout, c, t, hheld, -⟩ := leaves_of_followed hs hone rfl
        obtain rfl := Option.some.inj (habout.symm.trans hv)
        exact .inl ⟨_, Station.phase?_send hheld⟩
      | giveBack x f hone hf =>
        rcases hf with ⟨reply, reused, rfl⟩ | ⟨failure, rfl⟩ <;>
          exact .inr (hend hone rfl fun hx => by simp [Effect.concludes, hx])
      | breakDown x hone => exact .inr (hend hone rfl fun hx => by simp [Effect.concludes, hx])
    · -- What the relay does about an event is about nobody else either.
      obtain ⟨q, hq⟩ := Station.exists_phase?_of_others hs hp hv
      cases hreaction with
      | quiet | breakDown => exact .inl ⟨q, hq⟩
      | use x reused w due m hone =>
        obtain ⟨habout, -⟩ := leaves_of_followed hs hone rfl
        exact .inl (Station.exists_phase?_of_others hstep hq (e := .send x (.ofMessage m))
          fun heq => hv (habout.trans heq))
      | giveBack x f hone hf =>
        have hfx : f.about? = some x := by rcases hf with ⟨_, _, rfl⟩ | ⟨_, rfl⟩ <;> rfl
        obtain ⟨habout, -⟩ := leaves_of_followed hs hone hfx
        exact .inl (Station.exists_phase?_of_others hstep hq (e := .release x)
          fun heq => hv (habout.trans heq))
  | asked u selector m t more hprepared hname hnone hmore =>
    have hne : u ≠ v := fun heq => by simp [← heq, hnone] at hp
    obtain ⟨q, hq⟩ := Station.exists_phase?_of_others hs hp (e := .request u t.requestTimeout)
      fun heq => hne (Option.some.inj heq)
    have hstep := hs.transition (Station.step_transition s (.request u t.requestTimeout))
    rcases hmore with rfl | rfl
    · exact .inl ⟨q, hq⟩
    · exact .inl (Station.exists_phase?_of_others hstep hq (e := .release u)
        fun heq => hne (Option.some.inj heq))
  | dropped u o ho =>
    have hne : u ≠ v := by
      rintro rfl
      rcases ho with rfl | rfl
      · exact hstays rfl
      · exact hlate rfl
    exact .inl (Station.exists_phase?_of_others hs hp (e := .drop u)
      fun heq => hne (Option.some.inj heq))
  | elapse duration => exact .inl ⟨p, (Relay.phase?_step_elapse s duration v).trans hp⟩
  | delay duration => exact .inl ⟨p, hp⟩

/-- In a round nobody asks for a lease whose exchange is in progress. -/
theorem Round.request_not_mem (h : Round r g s o es) (hp : s.phase? v = some p) (timeout : Nat) :
    .event (.request v timeout) ∉ es := by
  intro hmem
  cases h with
  | idle => cases hmem
  | told e more hown helapse hreaction =>
    rcases List.mem_cons.mp hmem with heq | hmem
    · rw [← Occurrence.event.inj heq] at hown
      cases hown
    · cases hreaction with
      | quiet | breakDown => cases hmem
      | use | giveBack => simp at hmem
  | asked u selector m t more hprepared hname hnone hmore =>
    rcases hmore with rfl | rfl <;> simp at hmem <;> simp [← hmem.1, hp] at hnone
  | dropped | elapse | delay => simp at hmem

/-- **A round does not move the end of an exchange.** -/
theorem Round.endsBy {told : Chronicle} {last : Nat} (h : Round r g s o es) (hserves : r.Serves)
    (hs : r.client.station? g = some s) (hon : s.OnTime s.target.requestTimeout told)
    (hp : s.phase? v = some p) (hends : s.EndsBy v last)
    (hdelay : ∀ duration, o ≠ .delay duration) : (s.history es).1.EndsBy v last := by
  by_cases helapse : ∃ duration, o = .event (.elapse duration)
  · obtain ⟨duration, rfl⟩ := helapse
    cases h with
    | idle => exact hends
    | elapse => exact hends.elapse hon.slots duration
    | dropped u o ho => rcases ho with ho | ho <;> cases ho
  · exact hends.events hon (h.takesNoTime hserves hs hdelay fun duration heq =>
      helapse ⟨duration, heq⟩) (h.request_not_mem hp)

end Rounds

/-- What a client can hear of the end of its exchange: the answer to its result, or that the visit is
broken off. -/
def Visit.IsEnd (w : Visit) (word : RelayEffect) : Prop :=
  (∃ result, word = w.answer result) ∨ word = .brokenOff w.id

namespace Relay

variable {r : Relay} {g : String} {s : Station} {v : Nat} {w : Visit} {ev : RelayEvent}
  {f : Effect} {last : Nat}

/-! ## What is heard of the end of an exchange -/

/-- An exchange that breaks down breaks its visit off. -/
theorem station_of_overflowed (h : r.Tied) {e : Gateway.Event}
    (hrequest : ∀ x timeout, e = .request x timeout → r.Exchanges x g)
    (hmem : .overflowed v ∈ (r.client.step g e).2) :
    (r.station g e).1.visit? v = none ∧ voiced v (r.station g e).2 = [.brokenOff v] := by
  have hin : .overflowed v ∈ (r.client.step g e).2.filter Effect.isFollowed :=
    List.mem_filter.mpr ⟨hmem, rfl⟩
  rcases station_cases h g e hrequest with ⟨hnone, -⟩ | ⟨f, x, hone, hx, hv, -, heq⟩
  · rw [hnone] at hin
    cases hin
  · -- Nothing else is followed.
    obtain rfl : .overflowed v = f := List.mem_singleton.mp (hone ▸ hin)
    obtain rfl := Option.some.inj hx
    obtain ⟨w, due, m, hw, -⟩ := hv
    obtain rfl := id_of_visit? hw
    have hsame : (r.atStation g e).1.visit? w.id = some w := hw
    have hfollow : (r.atStation g e).1.follow g (.overflowed w.id) =
        (r.atStation g e).1.breakOff w := by
      simp only [follow, hsame]
    obtain ⟨⟨hgone, hone⟩, -⟩ := breakOff_closes (r := (r.atStation g e).1) (w := w) h.distinct
    rw [heq, andThen_eq, hfollow]
    refine ⟨hgone, ?_⟩
    rw [voiced_append, effects_atStation, voiced_station, hone, List.nil_append]

/-- **The end of an exchange is heard at once**, and it is the end of the visit. -/
theorem heard_of_concludes (h : r.Tied) (hw : r.visit? w.id = some w) (hout : ev.isOutside = true)
    (hmem : .station g f ∈ (r.step ev).2) (hends : f.concludes w.id = true) :
    (r.step ev).1.visit? w.id = none ∧
      ∃ word, voiced w.id (r.step ev).2 = [word] ∧ w.IsEnd word := by
  have hanswered : ∀ {result}, f.about? = some w.id → r.engine.resultOf? f = some result →
      (r.step ev).1.visit? w.id = none ∧
        ∃ word, voiced w.id (r.step ev).2 = [word] ∧ w.IsEnd word := by
    intro result hx hresult
    obtain ⟨w', hw', -, hgone, hone⟩ := concluded_of_result h hout hmem hx hresult
    obtain rfl := Option.some.inj (hw.symm.trans hw')
    exact ⟨hgone, _, hone, .inl ⟨result, rfl⟩⟩
  cases f with
  -- An answer is given.
  | replied y | failed y =>
    obtain rfl : y = w.id := by simpa [Effect.concludes] using hends
    exact hanswered rfl rfl
  -- The visit is broken off, and has none.
  | overflowed y =>
    obtain rfl : y = w.id := by simpa [Effect.concludes] using hends
    obtain ⟨r', e, hacts, hmem'⟩ := acts_of_followed h hout hmem rfl
    obtain ⟨hgone, hone⟩ := station_of_overflowed hacts.tied hacts.request hmem'
    rw [← hacts.step] at hgone hone
    exact ⟨hgone, _, hone, .inr rfl⟩
  | _ => cases hends

/-! ## Visits that wait -/

/-- A visit waits for the end of its exchange, which will be over by a moment at most, and before the
visit has taken too long. -/
structure Pending (r : Relay) (w : Visit) (g : String) (last : Nat) : Prop where
  tied : r.Tied
  serves : r.Serves
  visit : r.visit? w.id = some w
  due : ∃ due m, w.phase = .exchanging due g m ∧ last ≤ due
  station : ∃ s told p, r.client.station? g = some s ∧ r.Punctual told s ∧
    s.phase? w.id = some p ∧ s.EndsBy w.id last

namespace Pending

/-- **The clock does not pass the end of an exchange.** -/
theorem now_le (h : r.Pending w g last) : r.now ≤ last := by
  obtain ⟨s, told, p, -, hpunctual, hp, hends⟩ := h.station
  rw [← hpunctual.clock]
  exact hends.now_le hpunctual.onTime hp (hpunctual.inUse w.id p hp)

/-- **A visit waits on, or hears of the end of its exchange**, unless its client leaves. In the very
moment in which it has taken too long it may be told so. -/
theorem step (h : r.Pending w g last) (hout : ev.isOutside = true) (hstays : ev ≠ .leave w.id) :
    ((r.step ev).1.Pending w g last ∧ voiced w.id (r.step ev).2 = []) ∨
      ∃ word, voiced w.id (r.step ev).2 = [word] ∧ (w.IsEnd word ∨
        (ev = .late w.id ∧ word = .answered w.id (Http.Response.tooLate.forMethod w.method) ∧
          w.due? = some r.now ∧ r.now = last)) := by
  obtain ⟨due, m, hphase, hdue⟩ := h.due
  obtain ⟨s, told, p, hs, hpunctual, hp, hends⟩ := h.station
  by_cases hlate : ev = .late w.id
  · -- The clock has not passed the end of the exchange, nor the moment of the visit.
    subst hlate
    have hnow := h.now_le
    simp only [Relay.step, h.visit, Visit.due?, hphase, Option.any_some, decide_eq_true_eq]
    split
    · next hpast =>
      refine .inr ⟨_, ?_, .inr ⟨trivial, rfl, congrArg some ?_, ?_⟩⟩
      · have hothers : ∀ u, u ≠ w.id →
            voiced u [.answered w.id (Http.Response.tooLate.forMethod w.method)] = [] :=
          fun u hu => voiced_of_ne (Ne.symm hu) (by simp [RelayEffect.isVoiced])
        exact (abandon_closes (w := w) h.tied.distinct hothers).1.2.trans
          (by simp [voiced, RelayEffect.isVoiced])
      · omega
      · omega
    · exact .inl ⟨h, rfl⟩
  by_cases harrives : ∃ head, ev = .arrive w.id head
  · -- Nobody arrives under a number that is taken.
    obtain ⟨head, rfl⟩ := harrives
    simp only [Relay.step, h.visit, Option.isSome_some, if_true]
    exact .inl ⟨h, rfl⟩
  have hone : ∀ o ∈ [RelayOccurrence.event ev], o.isOutside = true :=
    fun o ho => List.mem_singleton.mp ho ▸ hout
  obtain ⟨es, hround, hstation, heffects⟩ := occur_round h.tied (.event ev) hout hs
  rcases hround.stays_or_concludes hpunctual.onTime.slots hp (by simpa using hstays)
    (by simpa using hlate) with ⟨q, hq⟩ | ⟨f, hf, hconcludes⟩
  · obtain ⟨hvisit, hquiet⟩ := unmoved_of_phase? (o := .event ev) h.tied h.visit hphase hout
      (fun head heq => harrives ⟨head, RelayOccurrence.event.inj heq⟩) hstation hq
    obtain ⟨s', hs', hlater⟩ := hpunctual.step h.tied h.serves hs hout
    obtain rfl := Option.some.inj (hstation.symm.trans hs')
    exact .inl ⟨⟨h.tied.step ev hout, h.serves.history h.tied hone, hvisit, ⟨due, m, hphase, hdue⟩,
      ⟨_, _, q, hstation, hlater, hq, hround.endsBy h.serves hs hpunctual.onTime hp hends (by simp)⟩⟩,
      hquiet⟩
  · have hmem : .station g f ∈ (r.step ev).2 :=
      mem_effectsAt.mp (show f ∈ effectsAt g (r.occur (.event ev)).2 from heffects ▸ hf)
    obtain ⟨-, word, hword, hend⟩ := heard_of_concludes h.tied h.visit hout hmem hconcludes
    exact .inr ⟨word, hword, .inl hend⟩

end Pending

/-- **A visit that has been uploaded** is answered at once, or waits for an exchange with a target; it
waits as long as the target lets it at most, if it has the time. -/
theorem pending_of_exchange {due : Nat} {a : Http.Admission} {body : Http.Body} (h : r.Tied)
    (hserves : r.Serves)
    (hpunctual : ∀ g s, r.client.station? g = some s → ∃ told, r.Punctual told s)
    (hw : r.visit? w.id = some w) (hphase : w.phase = .uploading due a body)
    (hdue : ∀ t ∈ r.engine.registry.targets, r.now + t.queueWait + t.requestTimeout ≤ due) :
    (∃ word, voiced w.id (r.step (.uploaded w.id)).2 = [word] ∧ w.IsEnd word) ∨
      (voiced w.id (r.step (.uploaded w.id)).2 = [] ∧ ∃ t ∈ r.engine.registry.targets, ∃ m,
        (r.step (.uploaded w.id)).1.Pending { w with phase := .exchanging due t.name m } t.name
          (r.now + t.queueWait + t.requestTimeout)) := by
  have hout : RelayEvent.isOutside (.uploaded w.id) = true := rfl
  have hstep : r.step (.uploaded w.id) = r.exchange w due a body := by
    simp only [Relay.step, hw, hphase]
  rcases r.exchange_cases w due a body with ⟨f, heq⟩ | ⟨i, t, s, -, hprepared, -, heq⟩
  · obtain ⟨⟨-, hone⟩, -⟩ :=
      startWaiting_of_conclude r [] w (.error f) rfl rfl h.distinct fun _ => rfl
    rw [hstep, heq]
    exact .inl ⟨_, hone, .inl ⟨_, rfl⟩⟩
  · obtain ⟨hfind, -⟩ := Engine.of_prepare hprepared
    have ht : t ∈ r.engine.registry.targets := List.mem_of_find?_eq_some hfind
    obtain ⟨s, hs, rfl⟩ := hserves t t.name hfind
    have hnone := h.hasNoExchange_of_phase hw (by simp [hphase])
    have hrequest := exchanges_of_request (g := s.target.name) hw due i.message s.target.requestTimeout
    have hset := h.of_keeps (keeps_setPhase r w.id (.exchanging due s.target.name i.message)) hnone
    have hs' : (r.setPhase w.id (.exchanging due s.target.name i.message)).client.station?
      s.target.name = some s := hs
    rcases Station.request_cases (hnone _ s hs) s.target.requestTimeout with hbusy | ⟨hquiet, q, hq⟩
    · -- A refusal is heard like every other failure.
      have hmem : .station s.target.name (.failed w.id .gatewayBusy) ∈
          (r.step (.uploaded w.id)).2 := by
        rw [hstep, heq]
        exact mem_step_of_station hs' hbusy
      exact .inl (heard_of_concludes h hw hout hmem (by simp [Effect.concludes])).2
    · rw [← Gateway.Client.effects_step hs'] at hquiet
      rcases station_cases hset s.target.name (.request w.id s.target.requestTimeout) hrequest with
        ⟨-, hat⟩ | ⟨f, x, hone, -⟩
      · have hquiet : r.step (.uploaded w.id) =
            (r.setPhase w.id (.exchanging due s.target.name i.message)).atStation s.target.name
              (.request w.id s.target.requestTimeout) := by rw [hstep, heq, hat]
        have hstation : (r.step (.uploaded w.id)).1.client.station? s.target.name =
            some (s.step (.request w.id s.target.requestTimeout)).1 := by
          rw [hquiet, client_atStation]
          exact Gateway.Client.station?_step_self hs'
        obtain ⟨told, hbefore⟩ := hpunctual _ s hs
        obtain ⟨s', hs'', hlater⟩ := hbefore.step h hserves hs hout
        obtain rfl := Option.some.inj (hstation.symm.trans hs'')
        refine .inr ⟨by rw [hquiet]; exact voiced_station _ _ _, s.target, ht, i.message,
          h.step _ hout, ?_, ?_, ⟨due, i.message, rfl, hdue _ ht⟩,
          ⟨_, _, q, hstation, hlater, hq, ?_⟩⟩
        · have houtside : ∀ o ∈ [RelayOccurrence.event (.uploaded w.id)], o.isOutside = true :=
            fun o ho => List.mem_singleton.mp ho ▸ hout
          exact hserves.history h houtside
        · rw [hquiet]
          show (r.setPhase w.id _).visit? w.id = _
          rw [visit?_setPhase, hw]
          simp
        · rw [← hbefore.clock]
          exact Station.endsBy_of_request hbefore.onTime.slots (hnone _ s hs)
      · rw [hquiet] at hone
        cases hone

end Relay

end ObliviousRelay
