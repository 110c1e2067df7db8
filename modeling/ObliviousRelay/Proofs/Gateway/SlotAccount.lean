import ObliviousRelay.Proofs.Gateway.Transition

/-!
# The account of slots

The slots of a station and its exchanges tell the same story: the free slots and the exchanges that
hold one make up the size of the pool, the list of holders names just those exchanges, and the queue
names just those that wait, in order of arrival.

- `SlotAccount` is the invariant, `SlotAccount.transition` says that every transition keeps it.
- `SlotAccount.finish_cases` tells what it means to end an exchange: the slot becomes free, or it
  passes to the head of the queue.
-/

namespace ObliviousRelay.Gateway.Station

open Timing (Deadline Expired)

variable {s t : Station} {x y : Nat} {p q : Phase} {e : Event} {o : Outcome}

/-- How many exchanges hold a slot. -/
def holders (s : Station) : Nat := s.tally (·.phase.hasSlot.toNat)

/-- Whether an exchange holds a slot. -/
def holdsSlot (s : Station) (x : Nat) : Bool := (s.phase? x).any (·.hasSlot)

/-- The slots of a station agree with its exchanges. -/
structure SlotAccount (s : Station) : Prop where
  distinct : s.HasDistinctIds
  size : s.pool.slots.size = s.target.poolSize
  conserved : s.pool.slots.free + s.holders = s.pool.slots.size
  held : ∀ x, s.pool.slots.held.count x = (s.holdsSlot x).toNat
  queue : s.pool.slots.waiting.map (·.holder) = s.queuedIds

@[simp] theorem holders_withSlots (slots : Slots Nat) : (s.withSlots slots).holders = s.holders := rfl

@[simp] theorem holdsSlot_withSlots (slots : Slots Nat) :
    (s.withSlots slots).holdsSlot x = s.holdsSlot x := rfl

theorem holdsSlot_of_phase? (h : s.phase? x = some p) : s.holdsSlot x = p.hasSlot := by
  simp [holdsSlot, h]

namespace SlotAccount

theorem ofTarget (target : Target) (policy : Policy) :
    (Station.ofTarget target policy).SlotAccount where
  distinct := List.nodup_nil
  size := rfl
  conserved := rfl
  held _ := rfl
  queue := rfl

/-- Whoever holds a slot does not wait for one. -/
theorem not_mem_queuedIds (h : s.SlotAccount) (hp : s.phase? x = some p) (hslot : p.hasSlot = true) :
    x ∉ s.queuedIds := by
  intro hmem
  obtain ⟨r, hr, hno⟩ := h.distinct.hasSlot_of_mem_queuedIds hmem
  rw [hp, Option.some.injEq] at hr
  simp [hr ▸ hslot] at hno

/-- Only the exchanges, the slots and the target count. -/
theorem of_same (h : s.SlotAccount) (hex : t.exchanges = s.exchanges)
    (hslots : t.pool.slots = s.pool.slots) (htarget : t.target = s.target) : t.SlotAccount where
  distinct := by
    rw [HasDistinctIds, hex]
    exact h.distinct
  size := by rw [hslots, htarget, h.size]
  conserved := by
    rw [hslots, holders, tally_congr hex]
    exact h.conserved
  held y := by
    rw [hslots, holdsSlot, phase?, hex]
    exact h.held y
  queue := by rw [hslots, queuedIds_congr hex, h.queue]

/-- The slots in use are those that exchanges hold. -/
theorem leased_eq (h : s.SlotAccount) : s.pool.stats.leased = s.holders := by
  have hsum := h.conserved
  simp only [Pool.stats, Slots.leased]
  omega

/-- At most as many exchanges hold a slot as there are slots. -/
theorem holders_le (h : s.SlotAccount) : s.holders ≤ s.target.poolSize := by
  have hsum := h.conserved
  have hsize := h.size
  omega

/-! ## Exchanges that keep their slot -/

theorem holders_setPhase (h : s.SlotAccount) (hp : s.phase? x = some p) (hslot : p.hasSlot = true)
    (hq : q.hasSlot = true) : (s.setPhase x q).holders = s.holders := by
  have htally := tally_setPhase (q := q) (·.phase.hasSlot.toNat) h.distinct hp
  simp only [hslot, hq] at htally
  exact Nat.add_right_cancel htally

theorem holdsSlot_setPhase (hp : s.phase? x = some p) (y : Nat) :
    (s.setPhase x q).holdsSlot y = if y = x then q.hasSlot else s.holdsSlot y := by
  by_cases hy : y = x
  · rw [if_pos hy, hy, holdsSlot_of_phase? (phase?_setPhase_self hp)]
  · rw [if_neg hy, holdsSlot, phase?_setPhase_of_ne hy, ← holdsSlot]

/-- Whoever keeps a slot changes nothing about who holds one. -/
theorem holdsSlot_setPhase_of_hasSlot (hp : s.phase? x = some p) (hslot : p.hasSlot = true)
    (hq : q.hasSlot = true) (y : Nat) : (s.setPhase x q).holdsSlot y = s.holdsSlot y := by
  rw [holdsSlot_setPhase hp]
  by_cases hy : y = x
  · rw [if_pos hy, hy, holdsSlot_of_phase? hp, hq, hslot]
  · rw [if_neg hy]

/-- An exchange that keeps its slot keeps the account. -/
theorem setPhase (h : s.SlotAccount) (hp : s.phase? x = some p) (hslot : p.hasSlot = true)
    (hq : q.hasSlot = true) : (s.setPhase x q).SlotAccount where
  distinct := h.distinct.setPhase
  size := h.size
  conserved := by
    rw [h.holders_setPhase hp hslot hq]
    exact h.conserved
  held y := by
    rw [holdsSlot_setPhase_of_hasSlot hp hslot hq]
    exact h.held y
  queue := by
    -- Who holds a slot is not in the queue, so the queue stays as it is.
    rw [queuedIds_setPhase hq, List.filter_eq_self.mpr]
    · exact h.queue
    · intro y hy
      have hne : y ≠ x := fun heq => h.not_mem_queuedIds hp hslot (heq ▸ hy)
      simpa using hne

/-! ## Exchanges that come and go -/

theorem holders_insert : (s.insert x p).holders = s.holders + p.hasSlot.toNat := tally_insert _

theorem holdsSlot_insert (hx : s.phase? x = none) (y : Nat) :
    (s.insert x p).holdsSlot y = if y = x then p.hasSlot else s.holdsSlot y := by
  by_cases hy : y = x
  · rw [if_pos hy, hy, holdsSlot_of_phase? (phase?_insert_self hx)]
  · rw [if_neg hy, holdsSlot, phase?_insert_of_ne hy, ← holdsSlot]

theorem holdsSlot_erase (y : Nat) :
    (s.erase x).holdsSlot y = if y = x then false else s.holdsSlot y := by
  by_cases hy : y = x
  · rw [if_pos hy, hy, holdsSlot, phase?_erase_self]
    rfl
  · rw [if_neg hy, holdsSlot, phase?_erase_of_ne hy, ← holdsSlot]

/-- A newcomer that is given a free slot. -/
theorem accept (h : s.SlotAccount) (hx : s.phase? x = none) (hfree : 0 < s.pool.slots.free)
    (timeout : Nat) :
    ((s.insert x (.granted timeout)).withSlots { s.pool.slots with
        free := s.pool.slots.free - 1, held := x :: s.pool.slots.held }).SlotAccount where
  distinct := h.distinct.insert hx
  size := h.size
  conserved := by
    have hsum := h.conserved
    simp only [withSlots_slots, holders_withSlots, holders_insert, Phase.hasSlot, Bool.toNat_true]
    omega
  held y := by
    -- The newcomer was not among the holders, and now is there once.
    have hcount := h.held y
    rw [holdsSlot_withSlots, holdsSlot_insert hx]
    -- The newcomer itself, and everybody else.
    by_cases hy : y = x
    · rw [hy, holdsSlot, hx] at hcount
      simpa [hy, Phase.hasSlot] using hcount
    · rw [if_neg hy]
      simpa [Ne.symm hy, List.count_cons] using hcount
  queue := by
    rw [queuedIds_withSlots, queuedIds_insert]
    simpa [Phase.hasSlot] using h.queue

/-- A newcomer that joins the queue. -/
theorem enqueue (h : s.SlotAccount) (hx : s.phase? x = none) (timeout expires : Nat) :
    ((s.insert x (.queued timeout)).withSlots { s.pool.slots with
        waiting := s.pool.slots.waiting ++ [⟨x, expires⟩] }).SlotAccount where
  distinct := h.distinct.insert hx
  size := h.size
  conserved := by
    rw [holders_withSlots, holders_insert]
    exact h.conserved
  -- Who waits holds nothing.
  held y := by
    have hcount := h.held y
    rw [holdsSlot_withSlots, holdsSlot_insert hx]
    by_cases hy : y = x
    · rw [hy, holdsSlot, hx] at hcount
      simpa [hy, Phase.hasSlot] using hcount
    · rw [if_neg hy]
      exact hcount
  queue := by
    rw [queuedIds_withSlots, queuedIds_insert]
    simp [h.queue, Phase.hasSlot]

/-- Whoever leaves the queue takes nothing along. -/
theorem withdraw (h : s.SlotAccount) (hp : s.phase? x = some p) (hslot : p.hasSlot = false) :
    ((s.erase x).withSlots (s.pool.slots.withdraw x)).SlotAccount where
  distinct := h.distinct.erase
  size := h.size
  -- Who leaves the queue gives nothing back.
  conserved := by
    have htally := tally_erase (·.phase.hasSlot.toNat) h.distinct hp
    simp only [hslot, Bool.toNat_false, Nat.add_zero] at htally
    exact (congrArg (s.pool.slots.free + ·) htally).trans h.conserved
  held y := by
    have hcount := h.held y
    rw [holdsSlot_withSlots, holdsSlot_erase]
    by_cases hy : y = x
    · rw [hy, holdsSlot_of_phase? hp, hslot] at hcount
      rw [if_pos hy, hy]
      exact hcount
    · rw [if_neg hy]
      exact hcount
  queue := by
    rw [queuedIds_withSlots, queuedIds_erase, ← h.queue, List.filter_map]
    rfl

/-! ## Giving a slot back -/

/-- Whoever holds a slot is named among the holders. -/
theorem mem_held (h : s.SlotAccount) (hp : s.phase? x = some p) (hslot : p.hasSlot = true) :
    x ∈ s.pool.slots.held := by
  have hcount := h.held x
  rw [holdsSlot_of_phase? hp, hslot] at hcount
  exact List.count_pos_iff.mp (by simp [hcount])

/-- The slot of an exchange that ends becomes free, or passes to the head of the queue. -/
theorem finish_cases (h : s.SlotAccount) (hp : s.phase? x = some p) (hslot : p.hasSlot = true) :
    (s.pool.slots.waiting = [] ∧
      s.finish x = ((s.erase x).withSlots { s.pool.slots with
        free := s.pool.slots.free + 1, held := s.pool.slots.held.erase x }, [.freed x])) ∨
    ∃ w rest timeout, s.pool.slots.waiting = w :: rest ∧ w.holder ≠ x ∧
      s.phase? w.holder = some (.queued timeout) ∧
      s.finish x = (((s.erase x).setPhase w.holder (.granted timeout)).withSlots { s.pool.slots with
        held := w.holder :: s.pool.slots.held.erase x, waiting := rest },
          [.freed x, .granted w.holder]) := by
  have hheld : s.pool.slots.held.contains x = true := by simpa using h.mem_held hp hslot
  cases hw : s.pool.slots.waiting with
  -- Nobody waits: the slot is free again.
  | nil =>
    refine .inl ⟨rfl, ?_⟩
    simp only [finish, freeSlot, Slots.giveBack, Station.erase, hheld, hw, if_true]
    rfl
  | cons w rest =>
    -- The head of the queue waits in the table, too, so it can be granted the slot.
    have hmem : w.holder ∈ s.queuedIds := by simp [← h.queue, hw]
    obtain ⟨r, hr, hno⟩ := h.distinct.hasSlot_of_mem_queuedIds hmem
    have hne : w.holder ≠ x := fun heq => h.not_mem_queuedIds hp hslot (heq ▸ hmem)
    have hqueued : ∃ timeout, r = .queued timeout := by
      cases r <;> simp_all [Phase.hasSlot]
    obtain ⟨timeout, rfl⟩ := hqueued
    refine .inr ⟨w, rest, timeout, rfl, hne, hr, ?_⟩
    have hfind : (s.erase x).phase? w.holder = some (.queued timeout) := by
      rw [phase?_erase_of_ne hne, hr]
    simp only [phase?, Station.erase] at hfind
    simp only [finish, freeSlot, Slots.giveBack, Station.erase, hheld, hw, if_true, andThen_eq,
      grant, phase?, hfind]
    rfl

theorem holders_erase (h : s.SlotAccount) (hp : s.phase? x = some p) (hslot : p.hasSlot = true) :
    (s.erase x).holders + 1 = s.holders := by
  have htally := tally_erase (·.phase.hasSlot.toNat) h.distinct hp
  simpa [hslot, holders] using htally

/-- What remains of the holders is what remains of the exchanges with a slot. -/
theorem count_held_erase (h : s.SlotAccount) (hp : s.phase? x = some p) (hslot : p.hasSlot = true)
    (y : Nat) : (s.pool.slots.held.erase x).count y = ((s.erase x).holdsSlot y).toNat := by
  have hcount := h.held y
  rw [List.count_erase, holdsSlot_erase]
  by_cases hy : y = x
  · rw [hy, holdsSlot_of_phase? hp, hslot] at hcount
    simp [hy, hcount]
  · simp [hy, Ne.symm hy, hcount]

/-- An exchange that ends gives its slot back to the account. -/
theorem finish (h : s.SlotAccount) (hp : s.phase? x = some p) (hslot : p.hasSlot = true) :
    (s.finish x).1.SlotAccount := by
  -- The exchange that ends was not waiting.
  have hqueued : s.queuedIds.filter (· ≠ x) = s.queuedIds := List.filter_eq_self.mpr fun y hy => by
    have hne : y ≠ x := fun heq => h.not_mem_queuedIds hp hslot (heq ▸ hy)
    simpa using hne
  have hholders := h.holders_erase hp hslot
  have hsum := h.conserved
  obtain ⟨hw, heq⟩ | ⟨w, rest, timeout, hw, hne, hwp, heq⟩ := h.finish_cases hp hslot
  · -- Nobody waits, and one more slot is free.
    rw [heq]
    exact {
      distinct := h.distinct.erase
      size := h.size
      conserved := by
        simp only [withSlots_slots, holders_withSlots]
        omega
      held := h.count_held_erase hp hslot
      queue := by
        rw [queuedIds_withSlots, queuedIds_erase, hqueued]
        exact h.queue }
  · -- The first of the queue holds the slot now, so that no slot is free and none is missing.
    rw [heq]
    have hgone : (s.erase x).phase? w.holder = some (.queued timeout) := by
      rw [phase?_erase_of_ne hne]
      exact hwp
    exact {
      distinct := h.distinct.erase.setPhase
      size := h.size
      conserved := by
        -- The head of the queue comes to hold the slot that `x` gave back.
        have htally := tally_setPhase (q := .granted timeout) (·.phase.hasSlot.toNat)
          h.distinct.erase hgone
        change holders _ + 0 = (s.erase x).holders + 1 at htally
        simp only [withSlots_slots, holders_withSlots]
        omega
      held := by
        intro y
        have hcount := h.count_held_erase hp hslot y
        rw [holdsSlot_withSlots, holdsSlot_setPhase hgone]
        -- The head of the queue is counted once, and everybody else as before.
        by_cases hy : y = w.holder
        · rw [hy, holdsSlot_of_phase? hgone] at hcount
          simpa [hy, Phase.hasSlot] using hcount
        · rw [if_neg hy]
          simpa [List.count_cons, Ne.symm hy] using hcount
      queue := by
        -- No number waits twice, so the rest of the queue is without the head.
        have hqueue : w.holder :: rest.map (·.holder) = s.queuedIds := by simp [← h.queue, hw]
        have hnodup : (w.holder :: rest.map (·.holder)).Nodup := by
          rw [hqueue]
          exact h.distinct.sublist (List.filter_sublist.map _)
        rw [queuedIds_withSlots, queuedIds_setPhase rfl, queuedIds_erase, hqueued, ← hqueue,
          List.filter_cons_of_neg (by simp)]
        refine (List.filter_eq_self.mpr fun y hy => ?_).symm
        have hnot : y ≠ w.holder := fun heq => (List.nodup_cons.mp hnodup).1 (heq ▸ hy)
        simpa using hnot }

/-- To end an exchange changes nothing of the pool but its slots. -/
theorem finish_pool (h : s.SlotAccount) (hp : s.phase? x = some p) (hslot : p.hasSlot = true) :
    (s.finish x).1.pool.idle = s.pool.idle ∧ (s.finish x).1.pool.openCount = s.pool.openCount ∧
      (s.finish x).1.pool.created = s.pool.created := by
  obtain ⟨-, heq⟩ | ⟨w, rest, timeout, -, -, -, heq⟩ := h.finish_cases hp hslot <;> rw [heq] <;>
    exact ⟨rfl, rfl, rfl⟩

/-- To end an exchange takes its part away from a tally that does not tell the granted from the
queued. -/
theorem tally_finish (h : s.SlotAccount) (hp : s.phase? x = some p) (hslot : p.hasSlot = true)
    (f : Exchange → Nat) (hf : ∀ y timeout, f ⟨y, .granted timeout⟩ = f ⟨y, .queued timeout⟩) :
    tally f (s.finish x).1 + f ⟨x, p⟩ = tally f s := by
  have herase := tally_erase f h.distinct hp
  obtain ⟨-, heq⟩ | ⟨w, rest, timeout, -, hne, hwp, heq⟩ := h.finish_cases hp hslot
  · -- Nobody was granted the slot.
    rw [heq]
    exact herase
  · -- Somebody was, which the measure does not see.
    have hgone : (s.erase x).phase? w.holder = some (.queued timeout) := by
      rw [phase?_erase_of_ne hne]
      exact hwp
    have htally := tally_setPhase (q := .granted timeout) f h.distinct.erase hgone
    rw [hf] at htally
    rw [heq, tally_withSlots]
    omega

/-- What is seen of the end of an exchange: its slot is given back, and perhaps granted at once. -/
theorem finish_effects (h : s.SlotAccount) (hp : s.phase? x = some p) (hslot : p.hasSlot = true) :
    (s.finish x).2 = [.freed x] ∨
      ∃ w timeout, w ≠ x ∧ s.phase? w = some (.queued timeout) ∧
        (s.finish x).2 = [.freed x, .granted w] := by
  obtain ⟨-, heq⟩ | ⟨w, rest, timeout, -, hne, hwp, heq⟩ := h.finish_cases hp hslot
  · exact .inl (by rw [heq])
  · exact .inr ⟨w.holder, timeout, hne, hwp, by rw [heq]⟩

/-! ## Every transition keeps the account -/

theorem disposal (h : s.SlotAccount) {disposal : Outcome} {tail : List Effect}
    (hending : Ending s x e p disposal tail) : disposal.1.SlotAccount := by
  obtain ⟨hex, hslots, htarget⟩ := hending.disposal_same
  exact h.of_same hex hslots htarget

/-- A transition keeps the account of slots. -/
theorem transition (h : s.SlotAccount) (ht : Transition s e o) : o.1.SlotAccount := by
  cases ht with
  | still => exact h
  | dead => exact h
  | refuse => exact h
  -- What becomes of connections and of the clock does not touch the slots.
  | lose | elapse => exact h.of_same rfl rfl rfl
  | accept x timeout hx hfree => exact h.accept hx hfree timeout
  | enqueue x timeout hx hfree hwait => exact h.enqueue hx timeout _
  | withdraw x timeout hp => exact h.withdraw hp rfl
  | overdue x timeout draw hp => exact h.withdraw hp rfl
  -- These move an exchange that has a slot and keeps it.
  | reuse x timeout c unusable left hp hidle =>
    exact (h.of_same (t := s.withIdle _ _) rfl rfl rfl).setPhase hp rfl rfl
  | dial x timeout hp => exact (h.of_same (t := s.withIdle _ _) rfl rfl rfl).setPhase hp rfl rfl
  | pass x hp hpass => exact h.setPhase hp hpass.hasSlot.1 hpass.hasSlot.2
  | @lossOf e p q c before after x hp hloss =>
    exact (h.of_same (t := (s.close c).1) rfl rfl rfl).setPhase hp hloss.hasSlot.1 hloss.hasSlot.2
  | gain x d purpose attempt bound stops hp hgain =>
    exact (h.of_same (t := s.opened.2.1) rfl rfl rfl).setPhase hp rfl hgain.hasSlot
  | surrender x hp hsurrender => exact h.setPhase hp hsurrender.hasSlot rfl
  | @ending e p disposal tail x hp hending =>
    have hp' : disposal.1.phase? x = some p := (hending.phase?_disposal x).trans hp
    exact (h.disposal hending).finish hp' hending.hasSlot

end SlotAccount

end ObliviousRelay.Gateway.Station
