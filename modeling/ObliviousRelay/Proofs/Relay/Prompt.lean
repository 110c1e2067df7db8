import ObliviousRelay.Proofs.Gateway.Timely
import ObliviousRelay.Proofs.Relay.Story

/-!
# Leases are in use

A relay sends on a lease as soon as it has it, and gives it back as soon as it was answered or has
failed. So no lease lies unused once the relay has gone on, and no time passes in between.

- `Course.busy`: only what the relay goes on after leaves a lease unused.
- `Round.inUse`: after a round all leases are in use; `Round.takesNoTime`.
-/

namespace ObliviousRelay

open Gateway (Station Effect Occurrence)
open Gateway.Station (Course IsBusy isAtRest TakesNoTime)

namespace Gateway.Station

variable {s : Station} {x : Nat} {p : Phase} {e : Event} {effects : List Effect}

/-! ## One station -/

theorem isBusy_none : IsBusy none := fun _ hr => by cases hr

theorem isBusy_some (h : isAtRest (some p) = false) : IsBusy (some p) :=
  fun _ hr => Option.some.inj hr ▸ h

/-- A message that is sent takes the lease into use. -/
theorem phase?_send {c : Connection} {t : Terms} {m : Outbound}
    (hp : s.phase? x = some (.held c t)) :
    (s.step (.send x m)).1.phase? x = some (.readying c t m) := by
  rw [step_eq_act (x := x) rfl, hp]
  exact phase?_setPhase_self hp

/-- **A lease comes to be unused by something after which the relay goes on.** -/
theorem Course.busy {p q : Option Phase} (h : Course s x e p q effects) (hp : IsBusy p)
    (hquiet : effects.filter Effect.isFollowed = []) : IsBusy q := by
  have hnot : ∀ f ∈ effects, f.isFollowed = false := by
    simpa using List.filter_eq_nil_iff.mp hquiet
  have hyes : ∀ {f}, f ∈ effects → f.isFollowed = true → IsBusy q := fun hf hfollowed =>
    absurd (hnot _ hf) (by simp [hfollowed])
  -- Every way to a held or a lost lease is followed.
  cases h with
  | still => exact hp
  | dead => exact absurd (hp _ rfl) (by simp [isAtRest])
  | accept | enqueue | dial => exact isBusy_some rfl
  | refuse | withdraw | overdue | ending => exact isBusy_none
  | reuse timeout c unusable => exact hyes (f := .leased x true) (by simp) rfl
  | pass hpass =>
    cases hpass with
    | unsendable | complete => exact hyes List.mem_cons_self rfl
    | _ => exact isBusy_some rfl
  | loss hloss =>
    cases hloss with
    | stale | returned => exact isBusy_some rfl
    | @discard e p c f hdiscards => exact hyes (f := .failed x f) (by simp) rfl
  | gain d purpose attempt bound stops hgain =>
    cases hgain with
    | lease => exact hyes (f := .leased x false) (by simp) rfl
    | unsendable m f hf => exact hyes (f := .failed x f) (by simp) rfl
    | offer | offerAgain => exact isBusy_some rfl
  | @surrender e p before f hsurrender => exact hyes (f := .failed x f) (by simp) rfl

/-- An event leaves the leases of others in use. -/
theorem busy_of_others (hs : s.SlotAccount) {y : Nat} (hy : e.about? ≠ some y)
    (h : IsBusy (s.phase? y)) : IsBusy ((s.step e).1.phase? y) := by
  rcases (step_transition s e).others hs hy with ⟨hsame, -⟩ | ⟨timeout, -, hgranted, -⟩
  · rwa [hsame]
  · rw [hgranted]
    exact isBusy_some rfl

theorem InUse.step (h : s.InUse) (hs : s.SlotAccount)
    (hquiet : (s.step e).2.filter Effect.isFollowed = []) : (s.step e).1.InUse := by
  intro y
  by_cases hy : e.about? = some y
  · exact ((step_transition s e).course hs hy).busy (h y) hquiet
  · exact busy_of_others hs hy (h y)

/-- An event about the only exchange whose lease may be unused. -/
theorem inUse_of_others (hs : s.SlotAccount) (h : ∀ y, y ≠ x → IsBusy (s.phase? y))
    (hx : e.about? = some x) (hbusy : IsBusy ((s.step e).1.phase? x)) : (s.step e).1.InUse := by
  intro y
  by_cases hy : y = x
  · exact hy ▸ hbusy
  · exact busy_of_others hs (by simpa [hx] using Ne.symm hy) (h y hy)

end Gateway.Station

/-! ## Rounds -/

namespace Round

variable {r : Relay} {g : String} {s : Station} {o : RelayOccurrence} {es : List Occurrence}

/-- A round takes no time, but for time that passes. It asks for leases of the target's own time. -/
theorem takesNoTime (h : Round r g s o es) (hserves : r.Serves) (hs : r.client.station? g = some s)
    (hdelay : ∀ duration, o ≠ .delay duration)
    (helapse : ∀ duration, o ≠ .event (.elapse duration)) :
    TakesNoTime s.target.requestTimeout es := by
  cases h with
  | idle => simp [TakesNoTime]
  | told e more hown hno hreaction =>
    intro o ho
    rcases List.mem_cons.mp ho with rfl | ho
    · refine ⟨e, rfl, hno, fun x allowed heq => ?_⟩
      rw [heq] at hown
      cases hown
    · cases hreaction with
      | quiet | breakDown => cases ho
      | use | giveBack =>
        obtain rfl := List.mem_singleton.mp ho
        exact ⟨_, rfl, by simp, by simp⟩
  | asked v selector m t more hprepared hname hnone hmore =>
    -- The station serves just the target that was prepared.
    obtain ⟨hfind, -⟩ := Engine.of_prepare hprepared
    obtain ⟨s', hs', rfl⟩ := hserves t t.name hfind
    rw [hname] at hs'
    obtain rfl := Option.some.inj (hs.symm.trans hs')
    intro o ho
    rcases List.mem_cons.mp ho with rfl | ho
    · exact ⟨_, rfl, by simp, fun x allowed heq => (Gateway.Event.request.inj heq).2.symm⟩
    · rcases hmore with rfl | rfl
      · cases ho
      · obtain rfl := List.mem_singleton.mp ho
        exact ⟨_, rfl, by simp, by simp⟩
  | dropped v =>
    intro o ho
    obtain rfl := List.mem_singleton.mp ho
    exact ⟨_, rfl, by simp, by simp⟩
  | elapse duration => exact absurd rfl (helapse duration)
  | delay duration => exact absurd rfl (hdelay duration)

/-- What is followed is about the exchange of the event, and leaves it in a fitting phase. -/
theorem leaves_of_followed {e : Gateway.Event} {f : Effect} {x : Nat} (hs : s.SlotAccount)
    (hone : (s.step e).2.filter Effect.isFollowed = [f]) (hx : f.about? = some x) :
    e.about? = some x ∧ f.Leaves ((s.step e).1.phase? x) := by
  cases habout : e.about? with
  | none =>
    rw [Station.effects_of_about_none habout] at hone
    cases hone
  | some y =>
    rcases ((Station.step_transition s e).course hs habout).followed with hnone |
      ⟨f', hone', hy, hleaves⟩
    · rw [hnone] at hone
      cases hone
    · obtain rfl := List.singleton_inj.mp (hone'.symm.trans hone)
      obtain rfl := Option.some.inj (hy.symm.trans hx)
      exact ⟨rfl, hleaves⟩

/-- What the relay does about an event leaves no lease unused. -/
theorem inUse_of_reaction {e : Gateway.Event} {more : List Occurrence} (hs : s.SlotAccount)
    (huse : s.InUse) (h : Reaction r g (s.step e).2 more) :
    ((s.step e).1.history more).1.InUse := by
  have hstep : (s.step e).1.SlotAccount := hs.transition (Station.step_transition s e)
  have hothers : ∀ {x}, e.about? = some x → ∀ y, y ≠ x → IsBusy ((s.step e).1.phase? y) :=
    fun hx y hy => Station.busy_of_others hs (by simpa [hx] using Ne.symm hy) (huse y)
  cases h with
  | quiet hquiet => exact huse.step hs hquiet
  | use x reused w due m hone =>
    -- The lease was got now, and is sent on.
    obtain ⟨habout, c, t, hheld, -⟩ := leaves_of_followed hs hone rfl
    have hsent : IsBusy (((s.step e).1.step (.send x (.ofMessage m))).1.phase? x) := by
      rw [Station.phase?_send hheld]
      exact Station.isBusy_some rfl
    exact Station.inUse_of_others hstep (hothers habout) (e := .send x (.ofMessage m)) rfl hsent
  | giveBack x f hone hf =>
    -- The result came now, and the lease is given back.
    have hx : f.about? = some x := by rcases hf with ⟨_, _, rfl⟩ | ⟨_, rfl⟩ <;> rfl
    obtain ⟨habout, hleaves⟩ := leaves_of_followed hs hone hx
    have hrest : isAtRest ((s.step e).1.phase? x) = true := by
      rcases hf with ⟨_, _, rfl⟩ | ⟨_, rfl⟩ <;> exact hleaves
    have hgone : IsBusy (((s.step e).1.step (.release x)).1.phase? x) := by
      rw [Station.gone_of_release hstep hrest]
      exact Station.isBusy_none
    exact Station.inUse_of_others hstep (hothers habout) (e := .release x) rfl hgone
  | breakDown x hone =>
    obtain ⟨habout, hgone⟩ := leaves_of_followed hs hone rfl
    have hnone : (s.step e).1.phase? x = none := hgone
    exact Station.inUse_of_others hs (fun y _ => huse y) habout (hnone ▸ Station.isBusy_none)

/-- **After a round no lease lies unused.** -/
theorem inUse (h : Round r g s o es) (hs : s.SlotAccount) (huse : s.InUse)
    (hdelay : ∀ duration, o ≠ .delay duration) : (s.history es).1.InUse := by
  -- What the relay asks of an exchange in progress is not followed.
  have hown : ∀ {s : Station} {e : Gateway.Event} {x : Nat}, s.SlotAccount → e.about? = some x →
      e.isOwn = true → (∀ timeout, e ≠ .request x timeout) → (∀ m, e ≠ .send x m) →
      (s.step e).2.filter Effect.isFollowed = [] := fun hs hx hyes hrequest hsend =>
    ((Station.step_transition _ _).course hs hx).filter_isFollowed hyes hrequest
      fun m hm => absurd hm (hsend m)
  cases h with
  | idle => exact huse
  | told e more hno helapse hreaction => exact inUse_of_reaction hs huse hreaction
  | asked v selector m t more hprepared hname hnone hmore =>
    have hasked : (s.step (.request v t.requestTimeout)).1.InUse := by
      refine Station.inUse_of_others hs (fun y _ => huse y) (x := v) rfl ?_
      have hcourse :=
        (Station.step_transition s (.request v t.requestTimeout)).course (x := v) hs rfl
      rw [hnone] at hcourse
      generalize (s.step (.request v t.requestTimeout)).1.phase? v = q,
        (s.step (.request v t.requestTimeout)).2 = effects at hcourse
      cases hcourse with
      | still | refuse => exact Station.isBusy_none
      | accept | enqueue => exact Station.isBusy_some rfl
    rcases hmore with rfl | rfl
    · exact hasked
    · have hstep := hs.transition (Station.step_transition s (.request v t.requestTimeout))
      exact hasked.step hstep (hown (x := v) hstep rfl rfl (by simp) (by simp))
  | dropped v => exact huse.step hs (hown (x := v) hs rfl rfl (by simp) (by simp))
  | elapse duration => exact huse.step hs (by rw [Station.effects_of_about_none rfl]; rfl)
  | delay duration => exact absurd rfl (hdelay duration)

end Round

end ObliviousRelay
