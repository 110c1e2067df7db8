import ObliviousRelay.Proofs.Gateway.Frame

/-!
# Slots are conserved

Every slot is free or held by one exchange, and an exchange that ends gives its slot back once, after
its connection was put aside or closed. So when no exchange is in progress, no slot is in use and
nothing is open but what lies idle.

- `SlotMove` says what an occurrence can do to the slots; `SlotAccount.slotMove`: every occurrence is
  such a move.
- `count_slots_occur`: grants and returns of slots are in balance.
- `leavesCleanly_occur` and `gone_of_freed`: a slot is given back at the end of an exchange, and then
  only.
- `Course.gone_or_isAtRest_of_failed`: a failure to obtain a lease is such an end (`gone_of_failed`),
  and after any other failure the exchange is not in use.
- `slots_conserved`: all of it, after every history.
-/

namespace ObliviousRelay.Gateway

/-! ## Grants and returns -/

/-- Who is given a slot. -/
def Effect.granted? : Effect → Option Nat
  | .granted x => some x
  | _ => none

/-- Who gives a slot back. -/
def Effect.freed? : Effect → Option Nat
  | .freed x => some x
  | _ => none

/-- Those who are given a slot, one after the other. -/
def grants (effects : List Effect) : List Nat := effects.filterMap Effect.granted?

/-- Those who give a slot back, one after the other. -/
def frees (effects : List Effect) : List Nat := effects.filterMap Effect.freed?

section Counting

variable (effects more : List Effect) (x : Nat)

@[simp] theorem grants_append : grants (effects ++ more) = grants effects ++ grants more :=
  List.filterMap_append

@[simp] theorem frees_append : frees (effects ++ more) = frees effects ++ frees more :=
  List.filterMap_append

/-- A number is granted as often as it is told so. -/
theorem count_grants : (grants effects).count x = effects.count (.granted x) := by
  rw [grants, List.count, List.countP_filterMap]
  refine List.countP_congr fun f _ => ?_
  cases f <;> simp [Effect.granted?]

/-- It is freed as often as it is told so. -/
theorem count_frees : (frees effects).count x = effects.count (.freed x) := by
  rw [frees, List.count, List.countP_filterMap]
  refine List.countP_congr fun f _ => ?_
  cases f <;> simp [Effect.freed?]

@[simp] theorem mem_grants : x ∈ grants effects ↔ .granted x ∈ effects := by
  rw [← List.count_pos_iff, count_grants, List.count_pos_iff]

@[simp] theorem mem_frees : x ∈ frees effects ↔ .freed x ∈ effects := by
  rw [← List.count_pos_iff, count_frees, List.count_pos_iff]

end Counting

namespace Station

variable {s : Station} {x y : Nat} {p q : Phase} {e : Event} {o : Outcome} {oc : Occurrence}
  {slots : Slots Nat} {freed granted : List Nat} {effects more : List Effect}

/-! ## Effects that are not about slots -/

/-- Effects that grant no slot and give none back. -/
def LeaveSlots (effects : List Effect) : Prop :=
  ∀ x, .granted x ∉ effects ∧ .freed x ∉ effects

/-- Effects that leave the slots alone do so together. -/
theorem LeaveSlots.append (h : LeaveSlots effects) (hmore : LeaveSlots more) :
    LeaveSlots (effects ++ more) := by
  intro x
  simp [h x, hmore x]

theorem leaveSlots_closed (cs : List Connection) : LeaveSlots (cs.map (.closed ·.serial)) := by
  simp [LeaveSlots]

theorem GivesUp.leaveSlots {dial : Dial} {f : Failure} (h : GivesUp s x e dial effects f) :
    LeaveSlots effects := by
  cases h <;> simp [LeaveSlots]

theorem Passage.leaveSlots (h : Passage s x e p q effects) : LeaveSlots effects := by
  cases h <;> simp [LeaveSlots]

theorem Loss.leaveSlots {c : Connection} (h : Loss s x e p c q effects more) :
    LeaveSlots (effects ++ .closed c.serial :: more) := by
  cases h <;> simp [LeaveSlots]

theorem Gain.leaveSlots {c : Connection} {d : Timing.Deadline} {purpose : Purpose}
    (h : Gain s x c d purpose q effects) : LeaveSlots effects := by
  cases h <;> simp [LeaveSlots]

theorem Surrender.leaveSlots {f : Failure} (h : Surrender s x e p effects f) :
    LeaveSlots effects := by
  obtain ⟨d, purpose, hpurpose, hgives⟩ := h
  exact hgives.leaveSlots

/-- Before and after the slot is given back, an ending leaves the slots alone. -/
theorem Ending.leaveSlots {disposal : Outcome} (h : Ending s x e p disposal effects) :
    LeaveSlots disposal.2 ∧ LeaveSlots effects := by
  cases h with
  -- Its connection is put aside or closed, and neither is about a slot.
  | releaseClean c t hclean =>
    refine ⟨?_, by simp [LeaveSlots]⟩
    unfold putAside
    split <;> simp [close, LeaveSlots]
  | releaseUsed | releaseSpent => exact ⟨by simp [close, LeaveSlots], by simp [LeaveSlots]⟩
  | drop p hslot =>
    refine ⟨?_, by simp [LeaveSlots]⟩
    rw [closeOwn, closeAll_eq]
    exact leaveSlots_closed _
  | giveUp d hgives => exact ⟨hgives.leaveSlots, by simp [LeaveSlots]⟩
  | breakDown => exact ⟨by simp [LeaveSlots], by simp [LeaveSlots]⟩

theorem LeaveSlots.grants_eq (h : LeaveSlots effects) : grants effects = [] :=
  List.eq_nil_iff_forall_not_mem.mpr fun x hx => (h x).1 ((mem_grants _ x).mp hx)

theorem LeaveSlots.frees_eq (h : LeaveSlots effects) : frees effects = [] :=
  List.eq_nil_iff_forall_not_mem.mpr fun x hx => (h x).2 ((mem_frees _ x).mp hx)

/-! ## Moves of the slots -/

/-- What an occurrence can do to the slots: the slots after it, who has given one back and who has
been given one. -/
inductive SlotMove (s : Station) : Occurrence → Slots Nat → List Nat → List Nat → Prop where
  | stands (o : Occurrence) : SlotMove s o s.pool.slots [] []
  /-- Who arrives while a slot is free is given one. -/
  | enters (x timeout : Nat) (hx : s.phase? x = none) (hfree : 0 < s.pool.slots.free) :
      SlotMove s (.event (.request x timeout))
        { s.pool.slots with free := s.pool.slots.free - 1, held := x :: s.pool.slots.held } [] [x]
  /-- Who arrives while none is free stands last in the queue. -/
  | joins (x timeout : Nat) (hx : s.phase? x = none) (hfree : s.pool.slots.free = 0) :
      SlotMove s (.event (.request x timeout))
        { s.pool.slots with
          waiting := s.pool.slots.waiting ++ [⟨x, s.now + s.target.queueWait⟩] } [] []
  /-- Somebody leaves the queue without a slot. -/
  | leaves (o : Occurrence) (x : Nat) : SlotMove s o (s.pool.slots.withdraw x) [] []
  /-- A slot is given back, and nobody waits. -/
  | returns (o : Occurrence) (x : Nat) (hx : x ∈ s.pool.slots.held)
      (hnone : s.pool.slots.waiting = []) :
      SlotMove s o
        { s.pool.slots with free := s.pool.slots.free + 1, held := s.pool.slots.held.erase x } [x] []
  /-- A slot passes to the head of the queue. -/
  | passes (o : Occurrence) (x : Nat) (w : Waiter Nat) (rest : List (Waiter Nat))
      (hx : x ∈ s.pool.slots.held) (hw : s.pool.slots.waiting = w :: rest) :
      SlotMove s o
        { s.pool.slots with held := w.holder :: s.pool.slots.held.erase x, waiting := rest }
        [x] [w.holder]

/-- Effects that are not about slots belong to no move. -/
theorem LeaveSlots.slotMove (h : LeaveSlots effects) (o : Occurrence) :
    SlotMove s o s.pool.slots (frees effects) (grants effects) := by
  rw [h.frees_eq, h.grants_eq]
  exact .stands o

/-- What a transition does with the slots is one of the moves. -/
theorem Transition.slotMove (h : s.SlotAccount) (ht : Transition s e o) :
    SlotMove s (.event e) o.1.pool.slots (frees o.2) (grants o.2) := by
  cases ht with
  -- Nothing is told about slots by these.
  | still | lose | elapse => exact .stands _
  | dead | refuse => exact LeaveSlots.slotMove (by simp [LeaveSlots]) _
  | accept x timeout hx hfree => exact .enters x timeout hx hfree
  | enqueue x timeout hx hfree => exact .joins x timeout hx hfree
  | withdraw x | overdue x => exact .leaves _ x
  | reuse | dial =>
    exact ((leaveSlots_closed _).append (by simp [LeaveSlots])).slotMove _
  | pass x hp hpass => exact hpass.leaveSlots.slotMove _
  | lossOf x hp hloss => exact hloss.leaveSlots.slotMove _
  | gain x d purpose attempt bound stops hp hgain =>
    exact (LeaveSlots.append (by simp [opened, LeaveSlots]) hgain.leaveSlots).slotMove _
  | surrender x hp hsurrender =>
    exact (hsurrender.leaveSlots.append (by simp [LeaveSlots])).slotMove _
  | @ending e p disposal tail x hp hending =>
    obtain ⟨hdisposal, htail⟩ := hending.leaveSlots
    have hp' : disposal.1.phase? x = some p := (hending.phase?_disposal x).trans hp
    -- To dispose of a connection leaves the slots as they are.
    have hslots : disposal.1.pool.slots = s.pool.slots := hending.disposal_same.2.1
    have hheld : x ∈ s.pool.slots.held := hslots ▸ (h.disposal hending).mem_held hp' hending.hasSlot
    simp only [frees_append, grants_append, hdisposal.frees_eq, hdisposal.grants_eq, htail.frees_eq,
      htail.grants_eq, List.nil_append, List.append_nil]
    obtain ⟨hw, heq⟩ | ⟨w, rest, timeout, hw, -, -, heq⟩ :=
      (h.disposal hending).finish_cases hp' hending.hasSlot
    all_goals
      rw [hslots] at hw heq
      rw [heq]
    · -- Nobody waits: the slot returns.
      exact .returns _ x hheld hw
    · -- The first of the queue is granted it.
      exact .passes _ x w rest hheld hw

/-- **Every occurrence is a move of the slots.** -/
theorem SlotAccount.slotMove (h : s.SlotAccount) (o : Occurrence) :
    SlotMove s o (s.occur o).1.pool.slots (frees (s.occur o).2) (grants (s.occur o).2) := by
  cases o with
  | delay duration => exact .stands _
  | event e => exact (step_transition s e).slotMove h

/-! ## Balance -/

/-- Grants and returns of one exchange's slot agree with its holding one before and after. -/
def SlotsBalance (s t : Station) (effects : List Effect) : Prop :=
  ∀ x, effects.count (.granted x) + (s.holdsSlot x).toNat =
    effects.count (.freed x) + (t.holdsSlot x).toNat

/-- A move keeps grants and returns in balance with the list of holders. -/
theorem SlotMove.balance (hm : SlotMove s oc slots freed granted) (y : Nat) :
    granted.count y + s.pool.slots.held.count y = freed.count y + slots.held.count y := by
  cases hm with
  -- Nobody's holding has changed.
  | stands | joins | leaves => rfl
  | enters x timeout hx hfree => simp [List.count_cons, Nat.add_comm]
  -- The number leaves the holders once, and is freed once.
  | returns oc x hx hnone =>
    have hholders := (List.perm_cons_erase hx).count_eq y
    simp only [List.count_cons, List.count_nil] at hholders ⊢
    omega
  -- So it does, and another number comes in with its grant.
  | passes oc x w rest hx hw =>
    have hholders := (List.perm_cons_erase hx).count_eq y
    simp only [List.count_cons, List.count_nil] at hholders ⊢
    omega

/-- **An occurrence keeps grants and returns in balance.** -/
theorem count_slots_occur (h : s.SlotAccount) (oc : Occurrence) :
    SlotsBalance s (s.occur oc).1 (s.occur oc).2 := by
  intro y
  have hbalance := (h.slotMove oc).balance y
  rw [h.held, (h.occur oc).held, count_grants, count_frees] at hbalance
  exact hbalance

/-- Over a whole history, the slots granted to an exchange are those it gave back and the one that it
may hold. -/
theorem count_slots_history (h : s.SlotAccount) (os : List Occurrence) :
    SlotsBalance s (s.history os).1 (s.history os).2 := by
  induction os generalizing s with
  | nil => exact fun _ => rfl
  | cons o rest ih =>
    intro x
    have hrest := ih (h.occur o) x
    have hnow := count_slots_occur h o x
    rw [history_cons]
    simp only [List.count_append]
    omega

/-! ## How exchanges end -/

/-- An exchange that leaves from a phase gives its slot back once, after its connection was put aside
or closed. One that waits has no slot and is not in the queue any more. -/
def LeavesCleanly (x : Nat) (p : Phase) (o : Outcome) : Prop :=
  (p.hasSlot = true → ∃ before after, o.2 = before ++ .freed x :: after ∧
    .freed x ∉ before ∧ .freed x ∉ after ∧
    ∀ c, p.connection? = some c → .closed c.serial ∈ before ∨ .pooled c.serial ∈ before) ∧
  (p.hasSlot = false → .freed x ∉ o.2 ∧ x ∉ o.1.pool.slots.waiting.map (·.holder))

/-- What an exchange owns when it ends is closed or put aside. -/
theorem Ending.disposed {disposal : Outcome} (h : Ending s x e p disposal effects) {c : Connection}
    (hc : p.connection? = some c) :
    .closed c.serial ∈ disposal.2 ∨ .pooled c.serial ∈ disposal.2 := by
  cases h with
  | releaseClean c' t hclean =>
    obtain rfl : c' = c := Option.some.inj hc
    unfold putAside
    split
    · exact .inl (List.mem_singleton.mpr rfl)
    · exact .inr (List.mem_singleton.mpr rfl)
  | releaseUsed c' t hused =>
    obtain rfl : c' = c := Option.some.inj hc
    exact .inl (List.mem_singleton.mpr rfl)
  -- Dropped with a connection, it closes this one.
  | drop p hslot =>
    rw [closeOwn, closeAll_eq, hc]
    exact .inl (List.mem_singleton.mpr rfl)
  | releaseSpent | giveUp | breakDown => exact absurd hc (by simp [Phase.connection?])

/-- **An exchange leaves cleanly, however it ends.** -/
theorem leavesCleanly_occur (h : s.SlotAccount) (o : Occurrence) (hp : s.phase? x = some p)
    (hgone : (s.occur o).1.phase? x = none) : LeavesCleanly x p (s.occur o) := by
  -- Whoever is gone is not in the queue.
  have hwaiting : x ∉ (s.occur o).1.pool.slots.waiting.map (·.holder) := by
    rw [(h.occur o).queue]
    exact (h.occur o).distinct.not_mem_queuedIds_of_none hgone
  have hfate := occur_fate h o x
  rw [hp, hgone] at hfate
  cases hfate with
  | own hcourse =>
    revert hcourse
    generalize heffects : (s.occur (.event _)).2 = effects
    intro hcourse
    -- An exchange is gone after a wait without a slot, or after an end.
    cases hcourse with
    | withdraw timeout | overdue timeout draw =>
      refine ⟨fun hslot => absurd hslot (by simp [Phase.hasSlot]), fun _ => ⟨?_, hwaiting⟩⟩
      rw [heffects]
      simp
    | @ending e p disposal tail hending =>
      refine ⟨fun _ => ?_, fun hno => absurd hending.hasSlot (by simp [hno])⟩
      obtain ⟨hdisposal, htail⟩ := hending.leaveSlots
      have hs : disposal.1.SlotAccount := h.disposal hending
      have hp' : disposal.1.phase? x = some p := (hending.phase?_disposal x).trans hp
      rw [heffects]
      obtain heq | ⟨w, timeout, hne, -, heq⟩ := hs.finish_effects hp' hending.hasSlot
      · -- Nobody waited.
        exact ⟨disposal.2, tail, by simp [heq], (hdisposal x).2, (htail x).2,
          fun c hc => hending.disposed hc⟩
      · -- Somebody waited, and was granted the slot.
        exact ⟨disposal.2, .granted w :: tail, by simp [heq], (hdisposal x).2,
          by simp [(htail x).2], fun c hc => hending.disposed hc⟩

/-- **A slot is given back only when its holder is gone.** -/
theorem Course.gone_of_freed {p q : Option Phase} (h : Course s x e p q effects)
    (hfreed : .freed x ∈ effects) : q = none := by
  cases h with
  | refuse | withdraw | overdue | ending => rfl
  | still | dead | accept | enqueue => exact absurd hfreed (by simp)
  | reuse | dial => exact absurd hfreed (by simp)
  | pass hpass => exact absurd hfreed (hpass.leaveSlots x).2
  | loss hloss => exact absurd hfreed (hloss.leaveSlots x).2
  | gain d purpose attempt bound stops hgain =>
    exact absurd hfreed (by simp [opened, (hgain.leaveSlots x).2])
  | surrender hsurrender => exact absurd hfreed (by simp [(hsurrender.leaveSlots x).2])

/-- Who gives its slot back is gone. -/
theorem gone_of_freed (h : s.SlotAccount) (o : Occurrence) (hfreed : .freed x ∈ (s.occur o).2) :
    (s.occur o).1.phase? x = none := by
  obtain ⟨e, -, hcourse⟩ := course_of_effect h o hfreed rfl (by simp)
  exact hcourse.gone_of_freed hfreed

/-- An exchange that is dropped is gone, wherever it stood. -/
theorem gone_of_drop (h : s.SlotAccount) (hp : s.phase? x = some p) :
    (s.step (.drop x)).1.phase? x = none := by
  rw [step_eq_act (x := x) rfl, hp]
  show (s.drop x p).1.phase? x = none
  cases hslot : p.hasSlot with
  | false =>
    -- Without a slot it waits in the queue, and leaves that.
    cases p with
    | queued timeout => exact phase?_erase_self
    | _ => exact absurd hslot (by simp [Phase.hasSlot])
  | true =>
    -- Its connection is closed first, and then it ends.
    have hclose : (s.closeOwn p).1.SlotAccount ∧ (s.closeOwn p).1.phase? x = some p := by
      rw [closeOwn, closeAll_eq]
      exact ⟨h.of_same rfl rfl rfl, hp⟩
    have hfinish := hclose.1.phase?_finish_self hclose.2 hslot
    cases p with
    | queued timeout => exact absurd hslot (by simp [Phase.hasSlot])
    | _ => exact hfinish

/-- Whether an exchange is gone, or a lease that is not in use. -/
def isAtRest : Option Phase → Bool
  | none | some .spent | some (.held _ _) => true
  | _ => false

/-- An exchange that is not in use is gone once it is released. -/
theorem gone_of_release (h : s.SlotAccount) (hrest : isAtRest (s.phase? x) = true) :
    (s.step (.release x)).1.phase? x = none := by
  rw [step_eq_act (x := x) rfl]
  cases hp : s.phase? x with
  | none => exact hp
  | some p =>
    rw [hp] at hrest
    cases p with
    -- Nothing but the lease itself is given back.
    | spent => exact h.phase?_finish_self hp rfl
    -- The connection is put aside or closed first, which leaves the exchange where it is.
    | held c t =>
      have hput : (s.putAside c).1.SlotAccount ∧ (s.putAside c).1.phase? x = some (.held c t) := by
        unfold putAside
        split <;> exact ⟨h.of_same rfl rfl rfl, hp⟩
      have hclose : (s.close c).1.SlotAccount := h.of_same rfl rfl rfl
      show (s.release x c t).1.phase? x = none
      unfold release
      split
      · exact hput.1.phase?_finish_self hput.2 rfl
      · exact hclose.phase?_finish_self hp rfl
    | _ => exact absurd hrest (by simp [isAtRest])

/-- Whether an exchange has obtained a lease, which may be spent by now. One that dials has, if the
connection is for a message that is to be sent on its lease. -/
def hadLease : Option Phase → Bool
  | none | some (.queued _) | some (.granted _) => false
  | some (.dialling _ purpose _) => purpose != .lease
  | some (.held _ _) | some .spent => true
  | some (.readying _ _ _) | some (.offering _ _ _ _) | some (.reading _ _ _ _ _) => true

/-- Who owns a connection has obtained a lease. -/
theorem hadLease_of_connection? {c : Connection} (hc : p.connection? = some c) :
    hadLease (some p) = true := by
  cases p with
  | queued | granted | dialling => cases hc
  | held | spent | readying | offering | reading => rfl

/-- **A failure leaves nothing, or a lease that was obtained before and is not in use.** -/
theorem Course.gone_or_isAtRest_of_failed {p q : Option Phase} {f : Failure}
    (h : Course s x e p q effects) (hf : .failed x f ∈ effects) : q = none ∨ hadLease p = true ∧ isAtRest q = true := by
  cases h with
  -- The pool was busy, no connection could be made, or the time was over before there was a lease.
  | refuse | withdraw | overdue | ending => exact .inl rfl
  -- Moves that tell of no failure.
  | still | accept | enqueue => exact absurd hf (by simp)
  | reuse | dial => exact absurd hf (by simp)
  | dead => exact .inr ⟨rfl, rfl⟩
  | pass hpass =>
    cases hpass with
    -- The message is refused, and the lease is at rest.
    | unsendable => exact .inr ⟨rfl, rfl⟩
    | _ => exact absurd hf (by simp)
  | loss hloss =>
    -- Only who has obtained a lease has a connection to lose.
    have hlease := hadLease_of_connection? hloss.connection?_eq.1
    cases hloss with
    | discard => exact .inr ⟨hlease, rfl⟩
    | stale | returned => exact absurd hf (by simp)
  | gain d purpose attempt bound stops hgain =>
    cases hgain with
    | unsendable => exact .inr ⟨rfl, rfl⟩
    | _ => exact absurd hf (by simp [opened])
  | surrender hsurrender =>
    -- Who surrenders dials for a message, and keeps the lease without a connection.
    obtain ⟨d, purpose, hpurpose, -⟩ := hsurrender
    exact .inr ⟨by simpa [hadLease] using hpurpose, rfl⟩

/-- What a failure leaves, after any occurrence. -/
theorem gone_or_isAtRest_of_failed (h : s.SlotAccount) (o : Occurrence) {f : Failure}
    (hf : .failed x f ∈ (s.occur o).2) : (s.occur o).1.phase? x = none ∨
      hadLease (s.phase? x) = true ∧ isAtRest ((s.occur o).1.phase? x) = true := by
  obtain ⟨e, -, hcourse⟩ := course_of_effect h o hf rfl (by simp)
  exact hcourse.gone_or_isAtRest_of_failed hf

/-- A failure leaves its exchange at rest. -/
theorem isAtRest_of_failed (h : s.SlotAccount) (o : Occurrence) {f : Failure}
    (hf : .failed x f ∈ (s.occur o).2) : isAtRest ((s.occur o).1.phase? x) = true := by
  rcases gone_or_isAtRest_of_failed h o hf with hgone | ⟨-, hrest⟩
  · rw [hgone]
    rfl
  · exact hrest

/-- **A failure to obtain a lease leaves nothing.** Who fails without ever having had a lease is gone:
the pool was busy, no connection could be made, or the deadline came while an attempt or a pause was
under way. -/
theorem gone_of_failed (h : s.SlotAccount) (o : Occurrence) {f : Failure}
    (hlease : hadLease (s.phase? x) = false) (hf : .failed x f ∈ (s.occur o).2) :
    (s.occur o).1.phase? x = none :=
  (gone_or_isAtRest_of_failed h o hf).resolve_right fun hhad => by
    rw [hhad.1] at hlease
    cases hlease

/-! ## Conservation -/

/-- **Slots are conserved.** After every history the free slots and those that exchanges hold, a slot
assigned to a waiter among them, make up the size of the pool, so the number of slots in use is what
the pool tells. Whenever an exchange leaves after that, it leaves cleanly, and its slot is given back
at no other time. To drop it makes it leave wherever it stands, to release it where it is not in use.
A failure to obtain a lease makes it leave by itself, and after every other failure it is not in use.
With no exchange in progress, no slot is in use and what is open lies idle. -/
theorem slots_conserved (target : Target) (policy : Policy) (os : List Occurrence) :
    let s := ((ofTarget target policy).history os).1
    let effects := ((ofTarget target policy).history os).2
    (s.pool.slots.free + s.holders = target.poolSize ∧
      s.pool.stats.leased + s.pool.slots.free = target.poolSize ∧
      ∀ x, effects.count (.granted x) = effects.count (.freed x) + (s.holdsSlot x).toNat) ∧
    (∀ x p o, s.phase? x = some p → (s.occur o).1.phase? x = none →
      LeavesCleanly x p (s.occur o)) ∧
    (∀ x o, .freed x ∈ (s.occur o).2 → (s.occur o).1.phase? x = none) ∧
    (∀ x p, s.phase? x = some p → (s.step (.drop x)).1.phase? x = none) ∧
    (∀ x, isAtRest (s.phase? x) = true → (s.step (.release x)).1.phase? x = none) ∧
    (∀ x f o, .failed x f ∈ (s.occur o).2 → isAtRest ((s.occur o).1.phase? x) = true) ∧
    (∀ x f o, hadLease (s.phase? x) = false → .failed x f ∈ (s.occur o).2 →
      (s.occur o).1.phase? x = none) ∧
    (s.exchanges = [] → s.pool.stats.leased = 0 ∧ s.pool.stats.openCount = s.pool.stats.idle) := by
  intro s effects
  obtain ⟨hs, hc⟩ := accounts_ofTarget target policy os
  have hsize : s.pool.slots.size = target.poolSize := by
    rw [hs.size, (history_target _ os).1]
    rfl
  have hsum : s.pool.slots.free + s.holders = target.poolSize := hs.conserved.trans hsize
  have hleased : s.pool.stats.leased = s.holders := hs.leased_eq
  refine ⟨⟨hsum, by omega, fun x => ?_⟩, fun x p o hp hgone => leavesCleanly_occur hs o hp hgone,
    fun x o hfreed => gone_of_freed hs o hfreed, fun x p hp => gone_of_drop hs hp,
    fun x hrest => gone_of_release hs hrest, fun x f o hf => isAtRest_of_failed hs o hf,
    fun x f o hlease hf => gone_of_failed hs o hlease hf, fun hnone => ?_⟩
  · -- Grants and frees balance over the whole history.
    have hbalance := count_slots_history (SlotAccount.ofTarget target policy) os x
    exact hbalance
  · -- Without exchanges no slot is held and no connection owned.
    have hholders : s.holders = 0 := by rw [holders, tally, hnone]; rfl
    have howners : s.ownerCount = 0 := by rw [ownerCount, tally, hnone]; rfl
    have hopen : s.pool.openCount = s.pool.idle.length + s.ownerCount := hc.openCount
    refine ⟨hleased.trans hholders, ?_⟩
    rw [howners] at hopen
    exact hopen

/-- Three exchanges for two slots: the lease of the first is released, and all three leave. -/
theorem slots_conserved_three :
    let os : List Occurrence := [.event (.request 0 1000), .event (.request 1 1000),
      .event (.request 2 1000), .event (.proceed 0), .event (.connected 0)]
    let rest : List Occurrence := [.event (.release 0), .event (.drop 2), .event (.drop 1)]
    let s := ((ofTarget sampleTarget samplePolicy).history os).1
    let t := ((ofTarget sampleTarget samplePolicy).history (os ++ rest)).1
    (∃ p, s.phase? 0 = some p ∧ (s.occur (.event (.release 0))).1.phase? 0 = none ∧
      LeavesCleanly 0 p (s.occur (.event (.release 0)))) ∧
    t.exchanges = [] ∧ t.pool.stats.leased = 0 ∧ t.pool.stats.openCount = t.pool.stats.idle := by
  intro os rest s t
  obtain ⟨-, hleaves, -, -, hrelease, -, -, -⟩ := slots_conserved sampleTarget samplePolicy os
  obtain ⟨-, -, -, -, -, -, -, hidle⟩ := slots_conserved sampleTarget samplePolicy (os ++ rest)
  have hnone : t.exchanges = [] := by decide
  have hgone : (s.occur (.event (.release 0))).1.phase? 0 = none := hrelease 0 (by decide)
  -- The first exchange has a lease by then.
  have hlease : ∃ p, s.phase? 0 = some p := Option.isSome_iff_exists.mp (by decide)
  obtain ⟨p, hp⟩ := hlease
  exact ⟨⟨p, hp, hgone, hleaves 0 p _ hp hgone⟩, hnone, hidle hnone⟩

end Station

end ObliviousRelay.Gateway
