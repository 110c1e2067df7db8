import ObliviousRelay.Proofs.Gateway.SlotConservation

/-!
# One deadline

The deadline of an exchange is fixed when its slot is granted and never moves. Whatever the exchange
waits for is bounded by it, so time does not pass a deadline while a lease is being asked for or a
message is under way.

- `IsTimely`: what bounds a phase lies before the deadline, and has not passed; `Timely.step`.
- `IsDated`: the deadline of a phase is told by the grant of the slot; `Dated.step`.
- `OnTime` is both, `OnTime.events`: no events of any kind end it.
-/

namespace ObliviousRelay.Gateway

open Timing (Deadline Expired)

/-- The deadline of an exchange, whether or not it is bounded by it now. -/
def Phase.term? : Phase → Option Deadline
  | dialling d _ _ => some d
  | held _ t => some t.deadline
  | readying _ t _ => some t.deadline
  | offering _ t _ _ => some t.deadline
  | reading _ t _ _ _ => some t.deadline
  | queued _ | granted _ | spent => none

theorem Phase.term?_of_deadline? {p : Phase} {d : Deadline} (h : p.deadline? = some d) :
    p.term? = some d := by
  cases p with
  | dialling | readying | offering | reading => exact h
  | queued | granted | held | spent => cases h

/-! ## The grant of a slot -/

/-- Effects, each with the moment at which it was seen. -/
abbrev Chronicle := List (Nat × Effect)

/-- Since when an exchange holds a slot, after one more effect. -/
def Effect.slotSince (x now : Nat) (since : Option Nat) : Effect → Option Nat
  | .granted y => if y = x then some now else since
  | .freed y => if y = x then none else since
  | _ => since

/-- The moment at which an exchange was granted the slot that it holds. -/
def Chronicle.slotSince (told : Chronicle) (x : Nat) : Option Nat :=
  told.foldl (fun since entry => entry.2.slotSince x entry.1 since) none

/-- Some effects, all seen at one moment. -/
def Chronicle.at (now : Nat) (effects : List Effect) : Chronicle := effects.map (now, ·)

namespace Chronicle

variable {told more : Chronicle} {effects : List Effect} {x now : Nat}

/-- What is told later goes on from what was told before. -/
theorem slotSince_append (told more : Chronicle) (x : Nat) : slotSince (told ++ more) x =
    more.foldl (fun since entry => entry.2.slotSince x entry.1 since) (told.slotSince x) :=
  List.foldl_append

/-- What neither grants nor frees a slot leaves it where it is. -/
theorem slotSince_append_of_quiet (h : ∀ entry ∈ more, entry.2 ≠ .granted x ∧ entry.2 ≠ .freed x) :
    slotSince (told ++ more) x = told.slotSince x := by
  rw [slotSince_append]
  -- By induction on what is told, none of which is about the slot of this number.
  induction more with
  | nil => rfl
  | cons entry rest ih =>
    obtain ⟨now, f⟩ := entry
    have hf : f.slotSince x now (told.slotSince x) = told.slotSince x := by
      obtain ⟨hgranted, hfreed⟩ := h (now, f) List.mem_cons_self
      cases f with
      | granted y => exact if_neg fun heq : y = x => hgranted (heq ▸ rfl)
      | freed y => exact if_neg fun heq : y = x => hfreed (heq ▸ rfl)
      | _ => rfl
    simp only [List.foldl_cons, hf]
    exact ih fun entry hmem => h entry (List.mem_cons_of_mem _ hmem)

theorem slotSince_append_at (h : ∀ f ∈ effects, f ≠ .granted x ∧ f ≠ .freed x) :
    slotSince (told ++ .at now effects) x = told.slotSince x := by
  apply slotSince_append_of_quiet
  intro entry hentry
  obtain ⟨f, hf, rfl⟩ := List.mem_map.mp hentry
  exact h f hf

/-- A slot that is granted is held since then. -/
theorem slotSince_append_of_granted (hmem : .granted x ∈ effects) (hno : .freed x ∉ effects) :
    -- Generalized to what has been granted before; the last word about the number is a grant.
    slotSince (told ++ .at now effects) x = some now := by
  have hlist : ∀ (effects : List Effect) (since : Option Nat), .freed x ∉ effects →
      .granted x ∈ effects ∨ since = some now →
      (Chronicle.at now effects).foldl (fun since entry => entry.2.slotSince x entry.1 since) since =
        some now := by
    intro effects
    induction effects with
    | nil => exact fun since _ h => h.resolve_left List.not_mem_nil
    | cons f rest ih =>
      intro since hno h
      apply ih _ fun hmem => hno (List.mem_cons_of_mem _ hmem)
      by_cases hf : f = .granted x
      · exact .inr (by rw [hf]; exact if_pos rfl)
      · -- Then it was granted before, or is later on.
        refine h.imp (fun hmem => (List.mem_cons.mp hmem).resolve_left (Ne.symm hf)) fun hsince => ?_
        subst hsince
        cases f with
        | freed y => exact if_neg fun heq : y = x => hno (heq ▸ List.mem_cons_self)
        | granted y => exact ite_self _
        | _ => rfl
  rw [slotSince_append]
  exact hlist effects _ hno (.inl hmem)

end Chronicle

namespace Station

variable {s : Station} {x y : Nat} {p q : Phase} {e : Event} {o : Outcome} {effects : List Effect}
  {d : Deadline} {now timeout : Nat} {told : Chronicle}

/-! ## Timely phases -/

/-- What bounds a phase has not passed, and does not lie behind the deadline. An attempt that its own
limit stops is stopped strictly before the deadline. -/
def IsTimely (now : Nat) : Phase → Prop
  | .dialling d _ ⟨_, .connecting bound .limit⟩ => now ≤ bound ∧ bound < d.moment
  | .dialling d _ ⟨_, .connecting bound .deadline⟩ => now ≤ bound ∧ bound = d.moment
  | .dialling d _ ⟨_, .pausing ending inTime⟩ =>
    now ≤ ending ∧ ending ≤ d.moment ∧ (inTime = false → ending = d.moment)
  | .held _ t | .readying _ t _ | .offering _ t _ _ | .reading _ t _ _ _ => now ≤ t.deadline.moment
  | .queued _ | .granted _ | .spent => True

/-- **No timely phase is behind its deadline.** -/
theorem IsTimely.le_deadline (h : IsTimely now p) (hd : p.term? = some d) : now ≤ d.moment := by
  -- Whatever bounds the phase comes no later than its deadline.
  cases p with
  | queued | granted | spent => cases hd
  | dialling d' purpose dial =>
    obtain rfl := Option.some.inj hd
    obtain ⟨attempt, stage⟩ := dial
    cases stage with
    | connecting bound stops =>
      cases stops with
      | limit => exact h.1.trans h.2.le
      | deadline => exact h.1.trans h.2.le
    | pausing ending inTime => exact h.1.trans h.2.1
  | held | readying | offering | reading =>
    obtain rfl := Option.some.inj hd
    exact h

/-- An attempt that begins before the deadline is bounded by it. -/
theorem isTimely_connecting (purpose : Purpose) (attempt limit : Nat) (h : now ≤ d.moment) :
    IsTimely now (.dialling d purpose
      ⟨attempt, .connecting (d.cap now limit).1 (d.cap now limit).2⟩) := by
  unfold Deadline.cap
  split
  · next hlimit => exact ⟨Nat.le_add_right _ _, hlimit⟩
  · exact ⟨h, rfl⟩

/-- So is a pause. -/
theorem isTimely_pausing (purpose : Purpose) (attempt length : Nat) (h : now ≤ d.moment) :
    IsTimely now (.dialling d purpose ⟨attempt, .pausing (d.run now (some length)).moment
      ((d.run now (some length)).result matches .ok ())⟩) := by
  unfold Deadline.run Deadline.endingBy
  by_cases hends : Deadline.endsBy d.moment now (some length) = true
  · rw [if_pos hends]
    refine ⟨Nat.le_add_right _ _, ?_, by simp⟩
    -- A pause of no length ends at once.
    simp only [Deadline.endsBy, Bool.or_eq_true, beq_iff_eq, decide_eq_true_eq] at hends
    rcases hends with rfl | hends
    · exact h
    · exact hends
  · rw [if_neg hends]
    exact ⟨Nat.le_max_left _ _, max_le h (Nat.le_refl _), fun _ => max_eq_right h⟩

/-- All exchanges of a station are in timely phases. -/
def Timely (s : Station) : Prop := ∀ x p, s.phase? x = some p → IsTimely s.now p

/-- A course leads from timely phases to timely phases, as long as no time passes. -/
theorem Passage.timely (h : Passage s x e p q effects) (hp : IsTimely s.now p) :
    IsTimely s.now q := by
  cases h with
  | send | offer | unsendable | answer | receive | complete => exact hp
  | pause d purpose attempt bound delay length hfails =>
    exact isTimely_pausing purpose attempt length (hp.le_deadline rfl)
  | retry d purpose attempt ending => exact isTimely_connecting purpose _ _ (hp.le_deadline rfl)

/-- A loss keeps its exchange in time. -/
theorem Loss.timely {c : Connection} {before after : List Effect}
    (h : Loss s x e p c q before after) (hp : IsTimely s.now p) : IsTimely s.now q := by
  cases h with
  | stale | returned => exact isTimely_connecting _ _ _ (hp.le_deadline rfl)
  | discard => exact trivial

theorem Gain.timely {c : Connection} {purpose : Purpose} (h : Gain s x c d purpose q effects)
    (hd : s.now ≤ d.moment) : IsTimely s.now q := by
  cases h <;> exact hd

/-- An exchange that goes on with its slot gets a connection from the pool, or dials. -/
theorem phase?_proceed {timeout : Nat} (hp : s.phase? x = some (.granted timeout)) :
    (∃ c, (s.step (.proceed x)).1.phase? x = some (.held c ⟨.after s.now timeout, true, false⟩)) ∨
      (s.step (.proceed x)).1.phase? x = some (.dialling (.after s.now timeout) .lease
        ⟨1, .connecting ((Deadline.after s.now timeout).cap s.now s.policy.connectTimeout).1
          ((Deadline.after s.now timeout).cap s.now s.policy.connectTimeout).2⟩) := by
  rw [step_eq_act (x := x) rfl, hp]
  simp only [isWord, Bool.false_and, Bool.false_eq_true, if_false, act, proceed, closeAll_eq,
    andThen_eq]
  generalize Pool.search s.isLost s.policy.idleTimeout s.now s.pool.idle = search
  cases search.found with
  | some c => exact .inl ⟨c, phase?_setPhase_self (s := s.withIdle search.left _) hp⟩
  | none => exact .inr (phase?_setPhase_self (s := s.withIdle search.left _) hp)

/-- A course keeps its exchange in time, but for the turn with the slot, which fixes the deadline.
-/
theorem Course.timely {p q : Option Phase} (h : Course s x e p q effects)
    (hproceed : ∀ timeout, e = .proceed x → p ≠ some (.granted timeout))
    (hp : ∀ r, p = some r → IsTimely s.now r) : ∀ r, q = some r → IsTimely s.now r := by
  intro r hr
  cases h with
  | still => exact hp r hr
  | dead | accept | enqueue | surrender => obtain rfl := Option.some.inj hr; exact trivial
  | refuse | withdraw | overdue | ending => cases hr
  | reuse timeout | dial timeout => exact absurd rfl (hproceed timeout rfl)
  | pass hpass => exact Option.some.inj hr ▸ hpass.timely (hp _ rfl)
  | loss hloss => exact Option.some.inj hr ▸ hloss.timely (hp _ rfl)
  | gain d purpose attempt bound stops hgain =>
    exact Option.some.inj hr ▸ hgain.timely ((hp _ rfl).le_deadline rfl)

/-- **A step that takes no time keeps all phases timely.** -/
theorem Timely.step (h : s.Timely) (hs : s.SlotAccount) (he : ∀ duration, e ≠ .elapse duration) :
    (s.step e).1.Timely := by
  intro y r hr
  rw [(step_transition s e).now he]
  -- The event's own exchange, and the others.
  by_cases hy : e.about? = some y
  · by_cases hproceed : ∃ timeout, e = .proceed y ∧ s.phase? y = some (.granted timeout)
    · -- The deadline is fixed now.
      obtain ⟨timeout, rfl, hp⟩ := hproceed
      have hahead : s.now ≤ (Deadline.after s.now timeout).moment := Nat.le_add_right _ _
      rcases phase?_proceed hp with ⟨c, hheld⟩ | hdialling
      · rw [hheld] at hr
        obtain rfl := Option.some.inj hr
        exact hahead
      · rw [hdialling] at hr
        obtain rfl := Option.some.inj hr
        exact isTimely_connecting _ _ _ hahead
    · exact ((step_transition s e).course hs hy).timely
        (fun timeout he hp => hproceed ⟨timeout, he, hp⟩) (h y) r hr
  -- Another exchange keeps its phase or is granted a slot.
  · rcases (step_transition s e).others hs hy with ⟨hsame, -⟩ | ⟨timeout, -, hgranted, -⟩
    · exact h y r (hsame ▸ hr)
    · obtain rfl := Option.some.inj (hgranted.symm.trans hr)
      exact trivial

/-- An exchange has no lease that is not in use. -/
def IsBusy (p : Option Phase) : Prop := ∀ r, p = some r → isAtRest (some r) = false

/-- No exchange of a station has a lease that is not in use. -/
def InUse (s : Station) : Prop := ∀ x, IsBusy (s.phase? x)

/-- **Time that passes keeps all phases timely**, where no lease lies unused. -/
theorem Timely.elapse (h : s.Timely) (huse : s.InUse) (duration : Nat) :
    (s.step (.elapse duration)).1.Timely := by
  simp only [Station.step]
  split
  · next hmay =>
    intro x p hp
    change s.phase? x = some p at hp
    have hold := h x p hp
    have hused := huse x p hp
    obtain ⟨e, he, rfl⟩ := Option.map_eq_some_iff.mp hp
    have hall := List.all_eq_true.mp hmay e (List.mem_of_find?_eq_some he)
    show IsTimely (s.now + duration) e.phase
    -- Time passes up to what bounds the phase, at most.
    cases hphase : e.phase with
    | queued | granted | spent => trivial
    -- Nobody may hold a lease that is not in use while time passes here.
    | held c t =>
      rw [hphase] at hused
      cases hused
    | dialling d purpose dial =>
      obtain ⟨attempt, stage⟩ := dial
      rw [hphase] at hold
      simp only [timer?, hphase, Phase.timer?] at hall
      cases stage with
      | connecting bound stops =>
        cases stops <;> exact ⟨by simpa using hall, hold.2⟩
      | pausing ending inTime => exact ⟨by simpa using hall, hold.2⟩
    | readying | offering | reading =>
      simpa [IsTimely, timer?, hphase, Phase.timer?, Phase.deadline?] using hall
  · exact h

/-! ## Dated phases -/

/-- **No course moves a deadline.** An exchange that keeps a slot is not granted one, and has the
deadline that it had, one that was fixed now, or none any more. -/
theorem Course.term (h : Course s x e (some p) (some q) effects) :
    (∀ f ∈ effects, f ≠ .granted x ∧ f ≠ .freed x) ∧ (q = p ∨ q = .spent ∨
      (∃ d, p.term? = some d ∧ q.term? = some d) ∨
      ∃ timeout, p = .granted timeout ∧ q.term? = some (.after s.now timeout)) := by
  cases h with
  -- Whoever asks or ends has no phase before or after, so it is not among the cases.
  | still => exact ⟨by simp, .inl rfl⟩
  | dead => exact ⟨by simp, .inl rfl⟩
  -- With its slot, an exchange has its deadline from now on.
  | reuse timeout | dial timeout =>
    refine ⟨?_, .inr (.inr (.inr ⟨timeout, rfl, rfl⟩))⟩
    simp [or_imp, forall_and]
  | pass hpass => cases hpass <;> exact ⟨by simp, .inr (.inr (.inl ⟨_, rfl, rfl⟩))⟩
  | loss hloss =>
    -- A lost connection leaves the deadline to what follows, or spends the lease.
    cases hloss with
    | stale | returned => exact ⟨by simp, .inr (.inr (.inl ⟨_, rfl, rfl⟩))⟩
    | discard => exact ⟨by simp, .inr (.inl rfl)⟩
  | gain d purpose attempt bound stops hgain =>
    cases hgain <;> exact ⟨by simp [opened], .inr (.inr (.inl ⟨_, rfl, rfl⟩))⟩
  | surrender hsurrender =>
    obtain ⟨d, purpose, hpurpose, hgives⟩ := hsurrender
    refine ⟨?_, .inr (.inl rfl)⟩
    cases hgives <;> simp

/-- What a phase tells of the time that its exchange is allowed, given since when it holds its
slot. -/
structure IsDated (timeout now : Nat) (since : Option Nat) (p : Phase) : Prop where
  allowed : ∀ allowed, p = .queued allowed ∨ p = .granted allowed → allowed = timeout
  begun : ∀ allowed, p = .granted allowed → since = some now
  deadline : ∀ d, p.term? = some d → since.map (· + timeout) = some d.moment

theorem isDated_spent (timeout now : Nat) (since : Option Nat) : IsDated timeout now since .spent :=
  ⟨by simp, by simp, by simp [Phase.term?]⟩

/-- All exchanges of a station are dated. -/
def Dated (timeout : Nat) (told : Chronicle) (s : Station) : Prop :=
  ∀ x p, s.phase? x = some p → IsDated timeout s.now (told.slotSince x) p

/-- **The deadline of an exchange is told by the grant of its slot**, whatever happens. -/
theorem Dated.step (h : s.Dated timeout told) (hs : s.SlotAccount)
    (he : ∀ duration, e ≠ .elapse duration)
    (hrequest : ∀ x allowed, e = .request x allowed → allowed = timeout) :
    (s.step e).1.Dated timeout (told ++ .at s.now (s.step e).2) := by
  intro y q hq
  rw [(step_transition s e).now he]
  by_cases hy : e.about? = some y
  · have hcourse := (step_transition s e).course hs hy
    have hold := h y
    rw [hq] at hcourse
    generalize s.phase? y = p, (s.step e).2 = effects at hcourse hold ⊢
    cases p with
    | none =>
      -- It has just asked for a lease.
      cases hcourse with
      -- Granted at once.
      | accept allowed =>
        refine ⟨fun a ha => ?_, fun a ha => ?_, by simp [Phase.term?]⟩
        · obtain rfl : allowed = a := by simpa using ha
          exact hrequest y allowed rfl
        · exact Chronicle.slotSince_append_of_granted (by simp) (by simp)
      -- It waits.
      | enqueue allowed =>
        refine ⟨fun a ha => ?_, by simp, by simp [Phase.term?]⟩
        obtain rfl : allowed = a := by simpa using ha
        exact hrequest y allowed rfl
    | some p =>
      obtain ⟨hquiet, hterm⟩ := hcourse.term
      have hdated := hold p rfl
      rw [Chronicle.slotSince_append_at hquiet]
      rcases hterm with rfl | rfl | ⟨d, hpd, hqd⟩ | ⟨allowed, rfl, hqd⟩
      -- The phase is as it was.
      · exact hdated
      -- The lease is spent.
      · exact isDated_spent _ _ _
      -- The deadline goes on.
      · have hnot : ∀ a, ¬ (q = .queued a ∨ q = .granted a) := by
          rintro a (rfl | rfl) <;> cases hqd
        refine ⟨fun a ha => absurd ha (hnot a), fun a ha => absurd (.inr ha) (hnot a), ?_⟩
        intro d' hd'
        obtain rfl := Option.some.inj (hqd.symm.trans hd')
        exact hdated.deadline d hpd
      · -- The slot was granted just now.
        have hnot : ∀ a, ¬ (q = .queued a ∨ q = .granted a) := by
          rintro a (rfl | rfl) <;> cases hqd
        refine ⟨fun a ha => absurd ha (hnot a), fun a ha => absurd (.inr ha) (hnot a), ?_⟩
        intro d' hd'
        obtain rfl := Option.some.inj (hqd.symm.trans hd')
        rw [hdated.begun allowed rfl, hdated.allowed allowed (.inr rfl)]
        rfl
  -- Of an exchange that the event is not about, only a grant is told.
  · have habout : ∀ {f}, f ∈ (s.step e).2 → f.about? = some y → f = .granted y := fun hf hfy =>
      ((step_transition s e).effects_about hs hf hfy).resolve_left hy
    rcases (step_transition s e).others hs hy with ⟨hsame, hno⟩ | ⟨allowed, hqueued, hgranted, hmem⟩
    -- It keeps its phase, and nothing is told of its slot.
    · rw [Chronicle.slotSince_append_at fun f hf => ?_]
      · exact h y q (hsame ▸ hq)
      · refine ⟨fun heq => hno (heq ▸ hf), fun heq => ?_⟩
        have hcontra := habout hf (by rw [heq]; rfl)
        rw [heq] at hcontra
        cases hcontra
    -- It is granted the slot now, with the time that it asked for.
    · obtain rfl := Option.some.inj (hgranted.symm.trans hq)
      refine ⟨fun a ha => ?_, fun a _ => ?_, by simp [Phase.term?]⟩
      · obtain rfl : allowed = a := by simpa using ha
        exact (h y _ hqueued).allowed allowed (.inl rfl)
      · refine Chronicle.slotSince_append_of_granted hmem fun hfreed => ?_
        cases habout hfreed rfl

/-- Time does not pass between the grant of a slot and what the exchange does with it. -/
theorem Dated.elapse (h : s.Dated timeout told) (duration : Nat) :
    (s.step (.elapse duration)).1.Dated timeout told := by
  simp only [Station.step]
  split
  · next hmay =>
    intro x p hp
    change s.phase? x = some p at hp
    have hold := h x p hp
    refine ⟨hold.allowed, fun allowed heq => ?_, hold.deadline⟩
    obtain ⟨e, he, rfl⟩ := Option.map_eq_some_iff.mp hp
    have hall := List.all_eq_true.mp hmay e (List.mem_of_find?_eq_some he)
    simp [heq] at hall
  · exact h

/-! ## Stations that are on time -/

/-- All exchanges of a station are timely, and their deadlines are told by the grants of their
slots. -/
structure OnTime (timeout : Nat) (told : Chronicle) (s : Station) : Prop where
  slots : s.SlotAccount
  timely : s.Timely
  dated : s.Dated timeout told

theorem onTime_ofTarget (target : Target) (policy : Policy) (timeout : Nat) :
    (ofTarget target policy).OnTime timeout [] where
  slots := .ofTarget target policy
  timely _ _ hp := by cases hp
  dated _ _ hp := by cases hp

/-- Occurrences that take no time, with requests that allow so much. -/
def TakesNoTime (timeout : Nat) (os : List Occurrence) : Prop :=
  ∀ o ∈ os, ∃ e, o = .event e ∧ (∀ duration, e ≠ .elapse duration) ∧
    ∀ x allowed, e = .request x allowed → allowed = timeout

/-- **A station stays on time**, whatever happens at one moment. -/
theorem OnTime.events (h : s.OnTime timeout told) {os : List Occurrence}
    (hos : TakesNoTime timeout os) :
    (s.history os).1.OnTime timeout (told ++ .at s.now (s.history os).2) ∧
      (s.history os).1.now = s.now := by
  -- By induction on the events, none of which moves the clock.
  induction os generalizing s told with
  | nil =>
    refine ⟨?_, rfl⟩
    show s.OnTime timeout (told ++ [])
    rwa [List.append_nil]
  | cons o rest ih =>
    obtain ⟨e, rfl, he, hrequest⟩ := hos o List.mem_cons_self
    have hnow : (s.step e).1.now = s.now := (step_transition s e).now he
    have hstep : (s.step e).1.OnTime timeout (told ++ .at s.now (s.step e).2) :=
      ⟨h.slots.transition (step_transition s e), h.timely.step h.slots he,
        h.dated.step h.slots he hrequest⟩
    obtain ⟨hrest, hsame⟩ := ih hstep fun o ho => hos o (List.mem_cons_of_mem _ ho)
    rw [hnow] at hrest hsame
    refine ⟨?_, hsame⟩
    -- All of it is told at the same moment.
    rw [history_cons]
    simp only [Chronicle.at, List.map_append]
    rwa [List.append_assoc] at hrest

/-- The passing of time keeps all exchanges in time, if they are in use. -/
theorem OnTime.elapse (h : s.OnTime timeout told) (huse : s.InUse) (duration : Nat) :
    (s.step (.elapse duration)).1.OnTime timeout told where
  slots := h.slots.transition (step_transition s _)
  timely := h.timely.elapse huse duration
  dated := h.dated.elapse duration

end Station

end ObliviousRelay.Gateway
