import ObliviousRelay.Proofs.Gateway.History

/-!
# Whom an event is about

An event is about one exchange at most, and so is an effect. A transition leaves all other exchanges
as they are, with one exception: a slot that becomes free is granted to the head of the queue.

- `Event.about?` and `Effect.about?` name the exchange.
- `Transition.effects_about`: an effect is about the exchange of the event, or it is such a grant.
- `Transition.others`: the other exchanges stay in their phases.
- `Course` lists what an event can do to the exchange that it is about, from its phase before to its
  phase after; `Transition.course`: nothing else happens to it.
- `Fate` is what an occurrence does to any exchange, `occur_fate`.
-/

namespace ObliviousRelay.Gateway

/-- The exchange that an event is about. -/
def Event.about? : Event → Option Nat
  | .request x _ => some x
  | e => Station.subject? e

/-- The exchange that an effect is about. -/
def Effect.about? : Effect → Option Nat
  | .granted x | .freed x | .dialling x | .readying x _ | .offered x _ _ | .leased x _
  | .replied x _ _ | .failed x _ | .overflowed x => some x
  | .logged _ | .attempted _ | .opened _ | .closed _ | .pooled _ => none

/-- Effects that are about one exchange, or about none. -/
def OnlyAbout (x : Nat) (effects : List Effect) : Prop :=
  ∀ f ∈ effects, ∀ y, f.about? = some y → y = x

namespace Station

variable {s : Station} {x y : Nat} {p q : Phase} {e : Event} {o : Outcome}
  {effects more : List Effect}

/-! ## The event and the effects of one exchange -/

/-- What makes an attempt fail is about its exchange. -/
theorem AttemptFails.about {stops : Timing.Expired} {error : String} {draw : Nat}
    (h : AttemptFails x e stops error draw) : e.about? = some x := by
  cases h <;> rfl

/-- Giving up is about one exchange, and so is what is told of it. -/
theorem GivesUp.about {dial : Dial} {f : Failure} (h : GivesUp s x e dial effects f) :
    e.about? = some x ∧ OnlyAbout x effects := by
  cases h with
  | exhausted attempt bound hfails hnone =>
    exact ⟨hfails.about, by simp [OnlyAbout, Effect.about?]⟩
  | deadline | pause => exact ⟨rfl, by simp [OnlyAbout, Effect.about?]⟩

/-- So is a passage. -/
theorem Passage.about (h : Passage s x e p q effects) :
    e.about? = some x ∧ OnlyAbout x effects := by
  cases h with
  | pause d purpose attempt bound delay length hfails =>
    exact ⟨hfails.about, by simp [OnlyAbout, Effect.about?]⟩
  | _ => exact ⟨rfl, by simp [OnlyAbout, Effect.about?]⟩

/-- So is what discards a connection. -/
theorem Discards.about {c : Connection} {f : Failure} (h : Discards s x e p c f) :
    e.about? = some x := by
  cases h <;> rfl

/-- So is a loss, before and after the closing. -/
theorem Loss.about {c : Connection} (h : Loss s x e p c q effects more) :
    e.about? = some x ∧ OnlyAbout x effects ∧ OnlyAbout x more := by
  cases h with
  | discard h => exact ⟨h.about, by simp [OnlyAbout], by simp [OnlyAbout, Effect.about?]⟩
  | stale | returned =>
    exact ⟨rfl, by simp [OnlyAbout, Effect.about?], by simp [OnlyAbout, Effect.about?]⟩

/-- What a gain tells is about one exchange. -/
theorem Gain.about {c : Connection} {d : Timing.Deadline} {purpose : Purpose}
    (h : Gain s x c d purpose q effects) : OnlyAbout x effects := by
  cases h <;> simp [OnlyAbout, Effect.about?]

/-- A surrender is about one exchange. -/
theorem Surrender.about {f : Failure} (h : Surrender s x e p effects f) :
    e.about? = some x ∧ OnlyAbout x effects := by
  obtain ⟨d, purpose, hpurpose, hgives⟩ := h
  exact hgives.about

/-- An ending is about one exchange, and so is what is told before and after its slot is given back.
-/
theorem Ending.about {disposal : Outcome} (h : Ending s x e p disposal effects) :
    e.about? = some x ∧ OnlyAbout x disposal.2 ∧ OnlyAbout x effects := by
  cases h with
  | releaseClean c t hclean =>
    refine ⟨rfl, ?_, by simp [OnlyAbout]⟩
    -- Put aside or closed, the connection is no exchange's any more.
    unfold putAside
    split <;> simp [close, OnlyAbout, Effect.about?]
  | releaseUsed | releaseSpent =>
    exact ⟨rfl, by simp [close, OnlyAbout, Effect.about?], by simp [OnlyAbout]⟩
  | drop p hslot =>
    refine ⟨rfl, ?_, by simp [OnlyAbout]⟩
    rw [closeOwn, closeAll_eq]
    simp [OnlyAbout, Effect.about?]
  | giveUp d hgives =>
    exact ⟨hgives.about.1, hgives.about.2, by simp [OnlyAbout, Effect.about?]⟩
  | breakDown d purpose attempt bound delay hfails =>
    exact ⟨hfails.about, by simp [OnlyAbout, Effect.about?], by simp [OnlyAbout, Effect.about?]⟩

/-- Closings are about no exchange. -/
theorem onlyAbout_closed (x : Nat) (cs : List Connection) :
    OnlyAbout x (cs.map (.closed ·.serial)) := by
  simp [OnlyAbout, Effect.about?]

/-! ## What others see of a transition -/

/-- **An effect is about the exchange of the event, or a slot was granted to who waited first.** -/
theorem Transition.effects_about (h : s.SlotAccount) (ht : Transition s e o) {f : Effect}
    (hf : f ∈ o.2) (hy : f.about? = some y) : e.about? = some y ∨ f = .granted y := by
  -- All but the end of an exchange have effects that are about the event's exchange only.
  have honly : ∀ {x : Nat} {effects : List Effect}, e.about? = some x → OnlyAbout x effects →
      f ∈ effects → e.about? = some y := fun hx hmine hmem => by rw [hx, hmine f hmem y hy]
  cases ht with
  | still | lose | elapse | enqueue | withdraw => exact absurd hf (List.not_mem_nil)
  | dead x t hp => exact .inl (honly (x := x) rfl (by simp [OnlyAbout, Effect.about?]) hf)
  | accept x timeout | refuse x timeout =>
    exact .inl (honly (x := x) rfl (by simp [OnlyAbout, Effect.about?]) hf)
  | overdue x timeout draw hp =>
    exact .inl (honly (x := x) rfl (by simp [OnlyAbout, Effect.about?]) hf)
  -- What lay before the reused connection is closed, and the lease is told of.
  | reuse x timeout c unusable left hp hidle =>
    rcases List.mem_append.mp hf with hf | hf
    · exact .inl (honly rfl (onlyAbout_closed x _) hf)
    · exact .inl (honly (x := x) rfl (by simp [OnlyAbout, Effect.about?]) hf)
  | dial x timeout hp =>
    rcases List.mem_append.mp hf with hf | hf
    · exact .inl (honly rfl (onlyAbout_closed x _) hf)
    · exact .inl (honly (x := x) rfl (by simp [OnlyAbout, Effect.about?]) hf)
  | pass x hp hpass => exact .inl (honly hpass.about.1 hpass.about.2 hf)
  -- The closing stands between what is told before and after.
  | lossOf x hp hloss =>
    obtain ⟨hx, hbefore, hafter⟩ := hloss.about
    rcases List.mem_append.mp hf with hf | hf
    · exact .inl (honly hx hbefore hf)
    · rcases List.mem_cons.mp hf with rfl | hf
      · exact absurd hy (by simp [Effect.about?])
      · exact .inl (honly hx hafter hf)
  -- The opening and what follows from it.
  | gain x d purpose attempt bound stops hp hgain =>
    rcases List.mem_append.mp hf with hf | hf
    · exact .inl (honly (x := x) rfl (by simp [opened, OnlyAbout, Effect.about?]) hf)
    · exact .inl (honly rfl hgain.about hf)
  | surrender x hp hsurrender =>
    obtain ⟨hx, hbefore⟩ := hsurrender.about
    rcases List.mem_append.mp hf with hf | hf
    · exact .inl (honly hx hbefore hf)
    · exact .inl (honly hx (by simp [OnlyAbout, Effect.about?]) hf)
  | @ending e p disposal tail x hp hending =>
    obtain ⟨hx, hdisposal, htail⟩ := hending.about
    have hs : disposal.1.SlotAccount := h.disposal hending
    have hp' : disposal.1.phase? x = some p := (hending.phase?_disposal x).trans hp
    rcases List.mem_append.mp hf with hf | hf
    · rcases List.mem_append.mp hf with hf | hf
      · exact .inl (honly hx hdisposal hf)
      -- The slot is free, or goes to the one who waits first: this one hears of its grant.
      · obtain heq | ⟨w, timeout, -, -, heq⟩ := hs.finish_effects hp' hending.hasSlot
        · rw [heq] at hf
          exact .inl (honly hx (by simp [OnlyAbout, Effect.about?]) hf)
        · rw [heq, List.mem_cons, List.mem_singleton] at hf
          rcases hf with rfl | rfl
          · have hfreed : OnlyAbout x [.freed x] := by simp [OnlyAbout, Effect.about?]
            exact .inl (honly hx hfreed (List.mem_singleton.mpr rfl))
          -- The grant is the one effect about somebody else.
          · rw [Effect.about?, Option.some.injEq] at hy
            exact .inr (by rw [hy])
    · exact .inl (honly hx htail hf)

/-- What the end of an exchange does to another one: nothing, or it is granted the slot. -/
theorem SlotAccount.phase?_finish (h : s.SlotAccount) (hp : s.phase? x = some p)
    (hslot : p.hasSlot = true) (hy : y ≠ x) :
    ((s.finish x).1.phase? y = s.phase? y ∧ .granted y ∉ (s.finish x).2) ∨
      ∃ timeout, s.phase? y = some (.queued timeout) ∧
        (s.finish x).1.phase? y = some (.granted timeout) ∧
        (s.finish x).2 = [.freed x, .granted y] := by
  obtain ⟨-, heq⟩ | ⟨w, rest, timeout, -, hne, hwp, heq⟩ := h.finish_cases hp hslot
  -- Nobody waits: everybody else keeps its phase.
  · left
    rw [heq]
    exact ⟨phase?_erase_of_ne hy, by simp⟩
  · have hgone : (s.erase x).phase? w.holder = some (.queued timeout) := by
      rw [phase?_erase_of_ne hne, hwp]
    rw [heq]
    -- Somebody waits: the first of the queue is granted the slot, and all others keep their phases.
    by_cases hw : y = w.holder
    · subst hw
      exact .inr ⟨timeout, hwp, phase?_setPhase_self hgone, rfl⟩
    · refine .inl ⟨?_, by simpa using hw⟩
      rw [phase?_withSlots, phase?_setPhase_of_ne hw, phase?_erase_of_ne hy]

/-- An exchange that ends is gone. -/
theorem SlotAccount.phase?_finish_self (h : s.SlotAccount) (hp : s.phase? x = some p)
    (hslot : p.hasSlot = true) : (s.finish x).1.phase? x = none := by
  obtain ⟨-, heq⟩ | ⟨w, rest, timeout, -, hne, hwp, heq⟩ := h.finish_cases hp hslot
  · rw [heq]
    exact phase?_erase_self
  · rw [heq, phase?_withSlots, phase?_setPhase_of_ne (Ne.symm hne)]
    exact phase?_erase_self

/-- **A transition leaves the exchanges that its event is not about as they are**, unless a slot is
granted to one of them. -/
theorem Transition.others (h : s.SlotAccount) (ht : Transition s e o) (hy : e.about? ≠ some y) :
    (o.1.phase? y = s.phase? y ∧ .granted y ∉ o.2) ∨
      ∃ timeout, s.phase? y = some (.queued timeout) ∧ o.1.phase? y = some (.granted timeout) ∧
        .granted y ∈ o.2 := by
  -- No slot is granted to another exchange by effects that are about this one.
  have hno : ∀ {x : Nat} {effects : List Effect}, OnlyAbout x effects → y ≠ x →
      .granted y ∉ effects := fun hmine hne hmem => hne (hmine _ hmem y rfl)
  have hne : ∀ {x : Nat}, e.about? = some x → y ≠ x := fun hx heq => hy (heq ▸ hx)
  cases ht with
  | still | lose | elapse => exact .inl ⟨rfl, List.not_mem_nil⟩
  | dead | refuse => exact .inl ⟨rfl, by simp⟩
  -- It comes under its own number.
  | accept x timeout hx =>
    have hxy : y ≠ x := hne rfl
    exact .inl ⟨phase?_insert_of_ne hxy, by simpa using hxy⟩
  | enqueue x timeout hx => exact .inl ⟨phase?_insert_of_ne (hne rfl), List.not_mem_nil⟩
  | withdraw x timeout hp => exact .inl ⟨phase?_erase_of_ne (hne rfl), List.not_mem_nil⟩
  | overdue x timeout draw hp => exact .inl ⟨phase?_erase_of_ne (hne rfl), by simp⟩
  -- Each of these sets the phase of its own exchange.
  | reuse x timeout c unusable left hp hidle =>
    exact .inl ⟨phase?_setPhase_of_ne (hne rfl), by simp⟩
  | dial x timeout hp => exact .inl ⟨phase?_setPhase_of_ne (hne rfl), by simp⟩
  | pass x hp hpass =>
    have hxy := hne hpass.about.1
    exact .inl ⟨phase?_setPhase_of_ne hxy, hno hpass.about.2 hxy⟩
  | lossOf x hp hloss =>
    obtain ⟨hx, hbefore, hafter⟩ := hloss.about
    refine .inl ⟨phase?_setPhase_of_ne (hne hx), ?_⟩
    simp [hno hbefore (hne hx), hno hafter (hne hx)]
  | gain x d purpose attempt bound stops hp hgain =>
    refine .inl ⟨phase?_setPhase_of_ne (hne rfl), ?_⟩
    simp [opened, hno hgain.about (hne rfl)]
  | surrender x hp hsurrender =>
    obtain ⟨hx, hbefore⟩ := hsurrender.about
    refine .inl ⟨phase?_setPhase_of_ne (hne hx), ?_⟩
    simp [hno hbefore (hne hx)]
  | @ending e p disposal tail x hp hending =>
    obtain ⟨hx, hdisposal, htail⟩ := hending.about
    have hs : disposal.1.SlotAccount := h.disposal hending
    have hsame := hending.phase?_disposal
    have hnot := hno hdisposal (hne hx)
    have hnotTail := hno htail (hne hx)
    -- The slot that is given back may pass to who waits first.
    obtain ⟨hkeep, hquiet⟩ | ⟨timeout, hqueued, hgranted, heffects⟩ :=
      hs.phase?_finish ((hsame x).trans hp) hending.hasSlot (hne hx)
    · exact .inl ⟨hkeep.trans (hsame y), by simp [hnot, hquiet, hnotTail]⟩
    · exact .inr ⟨timeout, (hsame y).symm.trans hqueued, hgranted, by simp [heffects]⟩

/-! ## The course of one exchange -/

/-- What an event does to the exchange that it is about: its phase before and after, none while the
exchange is not in progress, and the effects. -/
inductive Course (s : Station) (x : Nat) :
    Event → Option Phase → Option Phase → List Effect → Prop where
  | still (e : Event) (p : Option Phase) : Course s x e p p []
  | dead (m : Outbound) : Course s x (.send x m) (some .spent) (some .spent)
      [.failed x (.gatewayUnreachable "lease discarded")]
  | accept (timeout : Nat) :
      Course s x (.request x timeout) none (some (.granted timeout)) [.granted x]
  | enqueue (timeout : Nat) : Course s x (.request x timeout) none (some (.queued timeout)) []
  | refuse (timeout : Nat) : Course s x (.request x timeout) none none
      [.logged (.poolExhausted s.target.name), .failed x .gatewayBusy]
  | withdraw (timeout : Nat) : Course s x (.drop x) (some (.queued timeout)) none []
  | overdue (timeout draw : Nat) : Course s x (.expire x draw) (some (.queued timeout)) none
      [.logged (.poolExhausted s.target.name), .failed x .gatewayBusy]
  | reuse (timeout : Nat) (c : Connection) (unusable : List Connection) :
      Course s x (.proceed x) (some (.granted timeout))
        (some (.held c ⟨.after s.now timeout, true, false⟩))
        (unusable.map (.closed ·.serial) ++ [.leased x true])
  | dial (timeout : Nat) (stage : Dial) (unusable : List Connection) :
      Course s x (.proceed x) (some (.granted timeout))
        (some (.dialling (.after s.now timeout) .lease stage))
        (unusable.map (.closed ·.serial) ++ [.dialling x])
  | pass {e : Event} {p q : Phase} {effects : List Effect} (h : Passage s x e p q effects) :
      Course s x e (some p) (some q) effects
  | loss {e : Event} {p q : Phase} {c : Connection} {before after : List Effect}
      (h : Loss s x e p c q before after) :
      Course s x e (some p) (some q) (before ++ .closed c.serial :: after)
  | gain {q : Phase} {effects : List Effect} (d : Timing.Deadline) (purpose : Purpose)
      (attempt bound : Nat) (stops : Timing.Expired) (h : Gain s x s.opened.1 d purpose q effects) :
      Course s x (.connected x) (some (.dialling d purpose ⟨attempt, .connecting bound stops⟩))
        (some q) (s.opened.2.2 ++ effects)
  | surrender {e : Event} {p : Phase} {before : List Effect} {f : Failure}
      (h : Surrender s x e p before f) :
      Course s x e (some p) (some .spent) (before ++ [.failed x f])
  | ending {e : Event} {p : Phase} {disposal : Outcome} {tail : List Effect}
      (h : Ending s x e p disposal tail) :
      Course s x e (some p) none (disposal.2 ++ (disposal.1.finish x).2 ++ tail)

/-- **What happens to the exchange of an event is one of these courses.** -/
theorem Transition.course (h : s.SlotAccount) (ht : Transition s e o) (hx : e.about? = some x) :
    Course s x e (s.phase? x) (o.1.phase? x) o.2 := by
  -- Each transition names its exchange, and an event is about one exchange only.
  have hsame : ∀ {y : Nat}, e.about? = some y → y = x := fun hy => Option.some.inj (hy.symm.trans hx)
  cases ht with
  | still => exact .still e _
  | lose | elapse => exact absurd hx (by simp [Event.about?, subject?])
  | dead y m hp =>
    obtain rfl := hsame (y := y) rfl
    rw [hp]
    exact .dead m
  | accept y timeout hp =>
    obtain rfl := hsame (y := y) rfl
    rw [hp, phase?_withSlots, phase?_insert_self hp]
    exact .accept timeout
  | enqueue y timeout hp =>
    obtain rfl := hsame (y := y) rfl
    rw [hp, phase?_withSlots, phase?_insert_self hp]
    exact .enqueue timeout
  | refuse y timeout hp =>
    obtain rfl := hsame (y := y) rfl
    -- Refused, it is not there, neither before nor after.
    rw [hp]
    exact .refuse timeout
  | withdraw y timeout hp =>
    obtain rfl := hsame (y := y) rfl
    rw [hp, phase?_withSlots, phase?_erase_self]
    exact .withdraw timeout
  | overdue y timeout draw hp =>
    obtain rfl := hsame (y := y) rfl
    rw [hp, phase?_withSlots, phase?_erase_self]
    exact .overdue timeout draw
  | reuse y timeout c unusable left hp hidle =>
    obtain rfl := hsame (y := y) rfl
    rw [hp, phase?_setPhase_self (s := s.withIdle left unusable.length) hp]
    exact .reuse timeout c unusable
  | dial y timeout hp =>
    obtain rfl := hsame (y := y) rfl
    rw [hp, phase?_setPhase_self (s := s.withIdle [] s.pool.idle.length) hp]
    exact .dial timeout _ s.pool.idle
  | pass y hp hpass =>
    obtain rfl := hsame hpass.about.1
    rw [hp, phase?_setPhase_self hp]
    exact .pass hpass
  | @lossOf e p q c before after y hp hloss =>
    obtain rfl := hsame hloss.about.1
    rw [hp, phase?_setPhase_self (s := (s.close c).1) hp]
    exact .loss hloss
  | gain y d purpose attempt bound stops hp hgain =>
    obtain rfl := hsame (y := y) rfl
    rw [hp, phase?_setPhase_self (s := s.opened.2.1) hp]
    exact .gain d purpose attempt bound stops hgain
  | surrender y hp hsurrender =>
    obtain rfl := hsame hsurrender.about.1
    rw [hp, phase?_setPhase_self hp]
    exact .surrender hsurrender
  -- Its connection is disposed of first, which leaves its phase; then it is gone.
  | @ending e p disposal tail y hp hending =>
    obtain rfl := hsame hending.about.1
    have hs : disposal.1.SlotAccount := h.disposal hending
    have hp' : disposal.1.phase? y = some p := (hending.phase?_disposal y).trans hp
    rw [hp, hs.phase?_finish_self hp' hending.hasSlot]
    exact .ending hending

/-- What an occurrence does to an exchange: nothing, unless it is about it or grants it a slot. -/
inductive Fate (s : Station) (x : Nat) :
    Occurrence → Option Phase → Option Phase → List Effect → Prop where
  | aside (o : Occurrence) (p : Option Phase) (effects : List Effect)
      (h : ∀ f ∈ effects, f.about? ≠ some x) : Fate s x o p p effects
  | granted (o : Occurrence) (timeout : Nat) (effects : List Effect)
      (h : ∀ f ∈ effects, f.about? = some x → f = .granted x) :
      Fate s x o (some (.queued timeout)) (some (.granted timeout)) effects
  | own {e : Event} {p q : Option Phase} {effects : List Effect} (h : Course s x e p q effects) :
      Fate s x (.event e) p q effects

/-- **Every exchange meets one of these fates at every occurrence.** -/
theorem occur_fate (h : s.SlotAccount) (o : Occurrence) (x : Nat) :
    Fate s x o (s.phase? x) ((s.occur o).1.phase? x) (s.occur o).2 := by
  cases o with
  | delay duration => exact .aside _ _ _ (by simp [occur])
  | event e =>
    -- Either the event is about this exchange, or the exchange sees no more than a grant.
    have ht := step_transition s e
    by_cases hx : e.about? = some x
    · exact .own (ht.course h hx)
    · have hgrant : ∀ f ∈ (s.step e).2, f.about? = some x → f = .granted x := fun f hf hfx =>
        (ht.effects_about h hf hfx).resolve_left hx
      -- Not about this exchange, the event leaves its phase, or grants it the slot that it waits
      -- for.
      obtain ⟨hkeep, hnot⟩ | ⟨timeout, hqueued, hgranted, -⟩ := ht.others h hx
      · show Fate s x _ _ ((s.step e).1.phase? x) _
        rw [hkeep]
        exact .aside _ _ _ fun f hf hfx => hnot (hgrant f hf hfx ▸ hf)
      · show Fate s x _ _ ((s.step e).1.phase? x) _
        rw [hqueued, hgranted]
        exact .granted _ timeout _ hgrant

/-- An event of a station and an exchange: its own, a grant or none of its business. -/
theorem step_fate (h : s.SlotAccount) (e : Event) (x : Nat) :
    Fate s x (.event e) (s.phase? x) ((s.step e).1.phase? x) (s.step e).2 :=
  occur_fate h (.event e) x

/-- What is seen of an exchange, grants of slots apart, comes from its own course. -/
theorem course_of_effect (h : s.SlotAccount) (o : Occurrence) {f : Effect} (hf : f ∈ (s.occur o).2)
    (hx : f.about? = some x) (hgrant : f ≠ .granted x) : ∃ e, o = .event e ∧
      Course s x e (s.phase? x) ((s.occur o).1.phase? x) (s.occur o).2 := by
  have hfate := occur_fate h o x
  generalize s.phase? x = p, (s.occur o).1.phase? x = q, (s.occur o).2 = effects at hfate hf ⊢
  cases hfate with
  | aside o p effects hquiet => exact absurd hx (hquiet f hf)
  | granted o timeout effects honly => exact absurd (honly f hf hx) hgrant
  | own hcourse => exact ⟨_, rfl, hcourse⟩

end Station

end ObliviousRelay.Gateway
