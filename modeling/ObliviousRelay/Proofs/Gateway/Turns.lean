import ObliviousRelay.Proofs.Gateway.Failing
import ObliviousRelay.Proofs.Gateway.Tariff

/-!
# First come, first served

A slot that becomes free goes to who has waited longest, and to nobody else. So a slot never lies free
while somebody waits, slots are granted in the order in which they were asked for, and who is told that
the gateway is busy has found all slots taken from its arrival to the end of its wait.

- `SlotMove.inTurn`, `SlotMove.handed` and `SlotMove.movesUp`: how the queue is served by one move.
- `Orderly` adds to the account of slots that none is wasted.
- `Orderly.inTurn`: grants come in order of arrival, over a whole history.
- `Waits` follows one exchange from its arrival on, `Orderly.exists_arrival`.
- `no_spurious_busy`: all of it, after every history.
-/

namespace ObliviousRelay.Gateway

/-! ## The queue -/

/-- Who asks for a lease. -/
def Occurrence.request? : Occurrence → Option Nat
  | .event (.request x _) => some x
  | _ => none

/-- Those who ask for a lease, in order of arrival. -/
def requests (os : List Occurrence) : List Nat := os.filterMap Occurrence.request?

/-- Those who wait for a slot, in order of arrival. -/
def Slots.queue (slots : Slots Nat) : List Nat := slots.waiting.map (·.holder)

/-- No slot lies free while somebody waits. -/
def Slots.Unwasted (slots : Slots Nat) : Prop := 0 < slots.free → slots.waiting = []

namespace Station

variable {s a : Station} {x y timeout : Nat} {p : Phase} {e : Event} {o : Occurrence}
  {out : Outcome} {slots : Slots Nat} {freed granted before after : List Nat}
  {effects : List Effect} {os rest more : List Occurrence}

/-- A move wastes no slot. -/
theorem SlotMove.unwasted (hm : SlotMove s o slots freed granted) (h : s.pool.slots.Unwasted) :
    slots.Unwasted := by
  intro hfree
  cases hm with
  | stands => exact h hfree
  | enters x timeout hx hbefore => exact h hbefore
  | joins x timeout hx hnone => exact absurd hfree (by simp [hnone])
  | leaves o x =>
    show s.pool.slots.waiting.filter _ = []
    rw [h hfree]
    rfl
  | returns o x hx hnone => exact hnone
  | passes o x w rest hx hw => exact absurd (hw.symm.trans (h hfree)) (List.cons_ne_nil _ _)

/-! ## Orderly stations -/

/-- The account of slots is right, and none is wasted. -/
structure Orderly (s : Station) : Prop where
  account : s.SlotAccount
  unwasted : s.pool.slots.Unwasted

namespace Orderly

theorem ofTarget (target : Target) (policy : Policy) : (Station.ofTarget target policy).Orderly :=
  ⟨.ofTarget target policy, fun _ => rfl⟩

theorem occur (h : s.Orderly) (o : Occurrence) : (s.occur o).1.Orderly :=
  ⟨h.account.occur o, (h.account.slotMove o).unwasted h.unwasted⟩

theorem history (h : s.Orderly) (os : List Occurrence) : (s.history os).1.Orderly :=
  history_induction (P := fun r _ => r.Orderly) [] h (fun _ _ o h => h.occur o) os

theorem queue_eq (h : s.Orderly) : s.pool.slots.queue = s.queuedIds := h.account.queue

/-- No number waits twice. -/
theorem nodup_queue (h : s.Orderly) : s.pool.slots.queue.Nodup := by
  rw [h.queue_eq]
  exact h.account.distinct.sublist (List.filter_sublist.map _)

/-- Nobody waits while a slot is free. -/
theorem free_eq_zero (h : s.Orderly) (hx : x ∈ s.pool.slots.queue) : s.pool.slots.free = 0 := by
  by_contra hfree
  rw [Slots.queue, h.unwasted (Nat.pos_of_ne_zero hfree)] at hx
  cases hx

theorem queuedIds_of_free (h : s.Orderly) (hfree : 0 < s.pool.slots.free) : s.queuedIds = [] := by
  rw [← h.queue_eq, Slots.queue, h.unwasted hfree]
  rfl

theorem not_mem_queue_of_none (h : s.Orderly) (hx : s.phase? x = none) :
    x ∉ s.pool.slots.queue :=
  h.queue_eq ▸ h.account.distinct.not_mem_queuedIds_of_none hx

theorem mem_queue_of_queued (h : s.Orderly) (hp : s.phase? x = some (.queued timeout)) :
    x ∈ s.pool.slots.queue :=
  h.queue_eq ▸ mem_queuedIds_of_phase? hp rfl

theorem not_mem_held_of_none (h : s.Orderly) (hx : s.phase? x = none) : x ∉ s.pool.slots.held := by
  have hcount := h.account.held x
  rw [holdsSlot, hx] at hcount
  exact List.count_eq_zero.mp hcount

end Orderly

/-! ## Grants in order of arrival -/

/-- **Slots are granted in order of arrival**: who is given one at a move and who waits after it come
in the order in which they waited or arrived. -/
theorem SlotMove.inTurn (hm : SlotMove s o slots freed granted) (h : s.Orderly) :
    (granted ++ slots.queue).Sublist (s.pool.slots.queue ++ requests [o]) := by
  cases hm with
  | stands => exact List.sublist_append_left _ _
  -- With a slot free, nobody is in the queue, and the newcomer is granted at once.
  | enters x timeout hx hfree =>
    have hnone : s.pool.slots.queue = [] := by rw [Slots.queue, h.unwasted hfree]; rfl
    show ([x] ++ s.pool.slots.queue).Sublist (s.pool.slots.queue ++ [x])
    rw [hnone]
    exact List.Sublist.refl _
  -- The newcomer joins at the end.
  | joins x timeout hx hfree =>
    show (List.map _ (_ ++ _)).Sublist (s.pool.slots.queue ++ [x])
    rw [List.map_append]
    exact List.Sublist.refl _
  -- Whoever leaves is left out.
  | leaves o x => exact (List.filter_sublist.map _).trans (List.sublist_append_left _ _)
  | returns => exact List.sublist_append_left _ _
  -- The head of the queue is granted, and the rest waits on.
  | passes o x w rest hx hw =>
    show (w.holder :: rest.map (·.holder)).Sublist (s.pool.slots.queue ++ _)
    rw [Slots.queue, hw]
    exact List.sublist_append_left _ _

/-- Over a whole history, grants come in order of arrival. -/
theorem Orderly.inTurn (h : s.Orderly) (os : List Occurrence) :
    (grants (s.history os).2 ++ (s.history os).1.pool.slots.queue).Sublist
      (s.pool.slots.queue ++ requests os) := by
  induction os generalizing s with
  | nil => exact List.sublist_append_left _ _
  | cons o rest ih =>
    have hfirst := (h.account.slotMove o).inTurn h
    have hrest := ih (h.occur o)
    have hrequests : requests (o :: rest) = requests [o] ++ requests rest :=
      List.filterMap_append (l := [o])
    rw [history_cons, hrequests, grants_append, List.append_assoc, ← List.append_assoc _ (requests _)]
    exact (hrest.append_left _).trans (by
      rw [← List.append_assoc]
      exact hfirst.append_right _)

/-- **A slot that is given back passes to who has waited longest.** -/
theorem SlotMove.handed (hm : SlotMove s o slots freed granted) (hx : x ∈ freed) :
    granted = s.pool.slots.queue.head?.toList ∧ slots.queue = s.pool.slots.queue.tail := by
  cases hm with
  | stands | enters | joins | leaves => cases hx
  | returns o y hy hnone => simp [Slots.queue, hnone]
  | passes o y w rest hy hw => simp [Slots.queue, hw]

/-- Whoever does not wait and does not ask is given no slot, and does not come to wait or to hold
one. -/
theorem SlotMove.apart (hm : SlotMove s o slots freed granted) (ho : o.isRequest x = false)
    (hx : x ∉ s.pool.slots.queue) :
    x ∉ slots.queue ∧ x ∉ granted ∧ (x ∉ s.pool.slots.held → x ∉ slots.held) := by
  cases hm with
  | stands => exact ⟨hx, List.not_mem_nil, id⟩
  -- Another number is granted a slot, or joins the queue.
  | enters y timeout hy hfree =>
    have hne : x ≠ y := fun heq => by simp [Occurrence.isRequest, heq] at ho
    exact ⟨hx, by simpa using hne, fun hheld => by simp [hne, hheld]⟩
  | joins y timeout hy hfree =>
    have hne : x ≠ y := fun heq => by simp [Occurrence.isRequest, heq] at ho
    exact ⟨by simpa [Slots.queue, hne] using hx, List.not_mem_nil, id⟩
  | leaves o y =>
    exact ⟨fun hmem => hx ((List.filter_sublist.map _).subset hmem), List.not_mem_nil, id⟩
  | returns o y hy hnone =>
    exact ⟨hx, List.not_mem_nil, fun hheld hmem => hheld (List.mem_of_mem_erase hmem)⟩
  -- The slot passes to another number, since this one is not in the queue.
  | passes o y w rest hy hw =>
    obtain ⟨hne, hrest⟩ : x ≠ w.holder ∧ x ∉ rest.map (·.holder) := by
      simpa [Slots.queue, hw] using hx
    refine ⟨hrest, by simpa using hne, fun hheld hmem => ?_⟩
    exact hheld (List.mem_of_mem_erase ((List.mem_cons.mp hmem).resolve_left hne))

/-- **Only who waits or arrives is told that the gateway is busy.** -/
theorem Orderly.not_busy (h : s.Orderly) (ho : o.isRequest x = false)
    (hx : x ∉ s.pool.slots.queue) : .failed x .gatewayBusy ∉ (s.occur o).2 := by
  intro hmem
  obtain ⟨e, rfl, hfailing⟩ := failing_occur h.account o hmem
  obtain ⟨-, ⟨-, timeout, rfl⟩ | ⟨timeout, draw, hp, -⟩⟩ := hfailing.of_busy
  · simp [Occurrence.isRequest] at ho
  · exact hx (h.mem_queue_of_queued hp)

/-- An exchange that does not wait, and does not ask again, has no more to do with the queue. -/
theorem Orderly.apart (h : s.Orderly) (hmore : ∀ o ∈ more, o.isRequest x = false)
    (hx : x ∉ s.pool.slots.queue) :
    x ∉ (s.history more).1.pool.slots.queue ∧ x ∉ grants (s.history more).2 ∧
      .failed x .gatewayBusy ∉ (s.history more).2 ∧
      (x ∉ s.pool.slots.held → x ∉ (s.history more).1.pool.slots.held) := by
  induction more generalizing s with
  | nil => exact ⟨hx, List.not_mem_nil, List.not_mem_nil, id⟩
  | cons o rest ih =>
    obtain ⟨ho, hrest⟩ := List.forall_mem_cons.mp hmore
    obtain ⟨hqueue, hgrants, hheld⟩ := (h.account.slotMove o).apart ho hx
    obtain ⟨hqueue', hgrants', hbusy', hheld'⟩ := ih (h.occur o) hrest hqueue
    rw [history_cons, grants_append]
    exact ⟨hqueue', by simp only [List.mem_append, not_or]; exact ⟨hgrants, hgrants'⟩,
      by simp only [List.mem_append, not_or]; exact ⟨h.not_busy ho hx, hbusy'⟩, hheld' ∘ hheld⟩

/-! ## One wait -/

/-- Who waits moves up by the slots that are granted, and is never overtaken. -/
theorem SlotMove.movesUp (hm : SlotMove s o slots freed granted) (h : s.Orderly)
    (hqueue : s.pool.slots.queue = before ++ x :: after) (hx : x ∈ slots.queue) :
    ∃ before' after', slots.queue = before' ++ x :: after' ∧
      (granted ++ before').Sublist before := by
  have hwaits : x ∈ s.pool.slots.queue := by simp [hqueue]
  cases hm with
  | stands => exact ⟨before, after, hqueue, List.Sublist.refl _⟩
  -- While somebody waits, no slot is free.
  | enters y timeout hy hfree => exact absurd (h.free_eq_zero hwaits) (Nat.pos_iff_ne_zero.mp hfree)
  -- Who joins stands behind.
  | joins y timeout hy hfree =>
    refine ⟨before, after ++ [y], ?_, List.Sublist.refl _⟩
    show List.map _ (_ ++ _) = _
    rw [List.map_append, ← Slots.queue, hqueue]
    simp
  -- Whoever else leaves is taken out on its side.
  | leaves o y =>
    have hfilter : (s.pool.slots.withdraw y).queue = s.pool.slots.queue.filter (· ≠ y) := by
      rw [Slots.queue, Slots.queue, List.filter_map]
      rfl
    rw [hfilter] at hx ⊢
    have hne : x ≠ y := by simpa using (List.mem_filter.mp hx).2
    refine ⟨before.filter (· ≠ y), after.filter (· ≠ y), ?_, List.filter_sublist⟩
    rw [hqueue, List.filter_append, List.filter_cons_of_pos (by simpa using hne)]
  -- The slot would return only if nobody waited.
  | returns o y hy hnone => simp [Slots.queue, hnone] at hwaits
  -- The head moves on, and it is not this one, which still waits.
  | passes o y w rest hy hw =>
    have hsplit : w.holder :: rest.map (·.holder) = before ++ x :: after := by
      rw [← hqueue, Slots.queue, hw]
      rfl
    have hnodup : (w.holder :: rest.map (·.holder)).Nodup := by
      rw [hsplit, ← hqueue]
      exact h.nodup_queue
    cases before with
    | nil =>
      -- The head of the queue has its slot and does not wait any more.
      obtain ⟨rfl, -⟩ := List.cons.inj hsplit
      exact absurd hx (List.nodup_cons.mp hnodup).1
    | cons z before' =>
      obtain ⟨rfl, hrest⟩ := List.cons.inj hsplit
      exact ⟨before', after, hrest, List.Sublist.refl _⟩

/-- Whoever waits after a move waited before it, or has just arrived. -/
theorem SlotMove.waiter_cases (hm : SlotMove s o slots freed granted) {w : Waiter Nat}
    (hw : w ∈ slots.waiting) : w ∈ s.pool.slots.waiting ∨
      ((∃ timeout, o = .event (.request w.holder timeout)) ∧ s.phase? w.holder = none ∧
        s.pool.slots.free = 0 ∧ w.expires = s.now + s.target.queueWait ∧
        slots.waiting = s.pool.slots.waiting ++ [w] ∧ granted = []) := by
  cases hm with
  | stands | enters | returns => exact .inl hw
  | joins x timeout hx hfree =>
    rcases List.mem_append.mp hw with hw | hw
    · exact .inl hw
    · obtain rfl := List.mem_singleton.mp hw
      exact .inr ⟨⟨timeout, rfl⟩, hx, hfree, rfl, rfl, rfl⟩
  | leaves o x => exact .inl (List.mem_of_mem_filter hw)
  | passes o x v rest hx hv => exact .inl (hv ▸ List.mem_cons_of_mem _ hw)

/-- An exchange arrived at a state, found no slot free, and has waited through all that occurred
since. -/
structure Waits (a : Station) (x timeout : Nat) (rest : List Occurrence) : Prop where
  arrived : a.phase? x = none
  full : a.pool.slots.free = 0
  waiting : ∀ m, m <+: rest →
    x ∈ (a.history (.event (.request x timeout) :: m)).1.pool.slots.queue
  /-- The slots that were granted since went to those before it in the queue. -/
  turn : ∃ before after,
    (a.history (.event (.request x timeout) :: rest)).1.pool.slots.queue = before ++ x :: after ∧
      (grants (a.history (.event (.request x timeout) :: rest)).2 ++ before).Sublist
        a.pool.slots.queue
  expires : ∀ w ∈ (a.history (.event (.request x timeout) :: rest)).1.pool.slots.waiting,
    w.holder = x → w.expires = a.now + a.target.queueWait

/-- A wait goes on as long as the exchange is in the queue. -/
theorem Waits.concat (h : Waits a x timeout rest) (ha : a.Orderly) (o : Occurrence)
    (hx : x ∈ (a.history (.event (.request x timeout) :: rest ++ [o])).1.pool.slots.queue) :
    Waits a x timeout (rest ++ [o]) := by
  obtain ⟨before, after, hqueue, hturn⟩ := h.turn
  have horderly := ha.history (.event (.request x timeout) :: rest)
  have hmove := horderly.account.slotMove o
  rw [history_concat] at hx
  obtain ⟨before', after', hqueue', hup⟩ := hmove.movesUp horderly hqueue hx
  refine ⟨h.arrived, h.full, fun m hm => ?_, ⟨before', after', ?_, ?_⟩, fun w hw hwx => ?_⟩
  · -- It still waits after each part of the record, and after the whole of it now.
    rcases List.prefix_concat_iff.mp hm with rfl | hm
    · rw [← List.cons_append, history_concat]
      exact hx
    · exact h.waiting m hm
  · rw [← List.cons_append, history_concat]
    exact hqueue'
  · -- What was granted in between went to those before it.
    rw [← List.cons_append, history_concat, grants_append, List.append_assoc]
    exact (hup.append_left _).trans hturn
  · rw [← List.cons_append, history_concat] at hw
    rcases hmove.waiter_cases hw with hold | ⟨-, hnone, -⟩
    · exact h.expires w hold hwx
    · -- Who waits already does not arrive again.
      rw [hwx] at hnone
      exact absurd (by simp [hqueue]) (horderly.not_mem_queue_of_none hnone)

/-- Whoever comes to the queue arrives at that moment, and begins to wait. -/
theorem Orderly.waits_of_joined (h : a.Orderly) (hbefore : x ∉ a.pool.slots.queue)
    (hx : x ∈ (a.occur o).1.pool.slots.queue) :
    ∃ timeout, o = .event (.request x timeout) ∧ Waits a x timeout [] := by
  obtain ⟨w, hw, rfl⟩ := List.mem_map.mp hx
  obtain hold | ⟨⟨timeout, rfl⟩, hnone, hfree, hexpires, hwaiting, hgranted⟩ :=
    (h.account.slotMove o).waiter_cases hw
  · -- It would have waited before.
    exact absurd (List.mem_map_of_mem hold) hbefore
  · -- It arrives with this occurrence, and waits behind all that are there.
    refine ⟨timeout, rfl, hnone, hfree, fun m hm => ?_, ⟨a.pool.slots.queue, [], ?_, ?_⟩,
      fun v hv hvx => ?_⟩
    · obtain rfl := List.prefix_nil.mp hm
      exact hx
    · show List.map _ _ = _
      rw [history_cons, Station.history, hwaiting, List.map_append]
      rfl
    · rw [history_cons, Station.history, List.append_nil, hgranted]
      exact List.Sublist.refl _
    · rw [history_cons, Station.history, hwaiting] at hv
      rcases List.mem_append.mp hv with hold | hnew
      · exact absurd (hvx ▸ List.mem_map_of_mem hold) hbefore
      · rw [List.mem_singleton.mp hnew, hexpires]

/-- **Whoever waits has arrived at some time, and waited since.** -/
theorem Orderly.exists_arrival (h : s.Orderly) (hempty : s.exchanges = []) (os : List Occurrence)
    (hx : x ∈ (s.history os).1.pool.slots.queue) :
    ∃ past timeout rest, os = past ++ .event (.request x timeout) :: rest ∧
      Waits (s.history past).1 x timeout rest := by
  -- By induction on the history: either it waited before the last occurrence, or it joined with it.
  induction os using List.reverseRecOn with
  | nil =>
    have hnone : x ∈ s.queuedIds := h.queue_eq ▸ hx
    rw [queuedIds, hempty] at hnone
    cases hnone
  | append_singleton os o ih =>
    by_cases hbefore : x ∈ (s.history os).1.pool.slots.queue
    · obtain ⟨past, timeout, rest, rfl, hwaits⟩ := ih hbefore
      refine ⟨past, timeout, rest ++ [o], by simp, hwaits.concat (h.history past) o ?_⟩
      rw [List.append_assoc, history_append] at hx
      exact hx
    · rw [history_concat] at hx
      obtain ⟨timeout, rfl, hwaits⟩ := (h.history os).waits_of_joined hbefore hx
      exact ⟨os, timeout, [], rfl, hwaits⟩

/-! ## No spurious refusal -/

/-- An exchange arrived at a state and waited in vain through all that occurred since, until its time
to wait was over. -/
structure WaitedInVain (a : Station) (x : Nat) (during : List Occurrence) : Prop where
  arrived : a.phase? x = none
  /-- At every moment all slots are held. -/
  full : ∀ m, m <+: during →
    (a.history m).1.pool.slots.free = 0 ∧ (a.history m).1.holders = a.target.poolSize
  /-- They are held by others, who held one at the arrival or stood before it in the queue. -/
  ahead : ∀ m, m <+: during → ∀ y, (a.history m).1.holdsSlot y = true →
    y ≠ x ∧ (a.holdsSlot y = true ∨ y ∈ a.queuedIds)
  waiting : ∀ m, m <+: during → m ≠ [] → x ∈ (a.history m).1.queuedIds
  /-- The slots that were given back since were granted to those before it, in their order. -/
  inTurn : (grants (a.history during).2).Sublist a.queuedIds
  elapsed : a.now + a.target.queueWait ≤ (a.history during).1.now

/-- Whoever holds a slot held it before, or was granted it since. -/
theorem SlotAccount.held_or_granted (h : a.SlotAccount) {m : List Occurrence}
    (hy : (a.history m).1.holdsSlot y = true) :
    a.holdsSlot y = true ∨ y ∈ grants (a.history m).2 := by
  have hbalance := count_slots_history h m y
  rw [hy] at hbalance
  by_cases hbefore : a.holdsSlot y = true
  · exact .inl hbefore
  · refine .inr ((mem_grants _ y).mpr (List.count_pos_iff.mp ?_))
    simp only [hbefore, Bool.toNat_false, Bool.toNat_true] at hbalance
    omega

/-- Where no slot is free, all slots are held. -/
theorem SlotAccount.holders_of_full (h : s.SlotAccount) (hfull : s.pool.slots.free = 0) :
    s.holders = s.target.poolSize := by
  have hsum := h.conserved
  rw [hfull, h.size] at hsum
  simpa using hsum

/-- What was granted by a moment was granted by the end. -/
theorem grants_mono {m during : List Occurrence} (hm : m <+: during) :
    grants (a.history m).2 ⊆ grants (a.history during).2 := by
  obtain ⟨later, rfl⟩ := hm
  rw [history_append, grants_append]
  exact List.subset_append_left _ _

/-- **Who waits in vain** finds all slots in the hands of those who came before it. -/
theorem Waits.inVain (h : Waits a x timeout rest) (ha : a.Orderly)
    (helapsed : a.now + a.target.queueWait ≤
      (a.history (.event (.request x timeout) :: rest)).1.now) :
    WaitedInVain a x (.event (.request x timeout) :: rest) := by
  obtain ⟨before, after, -, hturn⟩ := h.turn
  have hgrants : (grants (a.history (.event (.request x timeout) :: rest)).2).Sublist a.queuedIds :=
    ha.queue_eq ▸ (List.sublist_append_left _ _).trans hturn
  -- At every moment but the first it is in the queue.
  have hqueue : ∀ m, m <+: .event (.request x timeout) :: rest → m ≠ [] →
      x ∈ (a.history m).1.pool.slots.queue := by
    intro m hm hne
    obtain rfl | ⟨m, rfl, hrest⟩ := List.prefix_cons_iff.mp hm
    · exact absurd rfl hne
    · exact h.waiting m hrest
  have hfull : ∀ m, m <+: .event (.request x timeout) :: rest →
      (a.history m).1.pool.slots.free = 0 := by
    intro m hm
    by_cases hne : m = []
    · rw [hne]
      exact h.full
    · exact (ha.history m).free_eq_zero (hqueue m hm hne)
  refine ⟨h.arrived, fun m hm => ⟨hfull m hm, ?_⟩, fun m hm y hy => ⟨?_, ?_⟩,
    fun m hm hne => (ha.history m).queue_eq ▸ hqueue m hm hne, hgrants, helapsed⟩
  · -- The slots are all held, by as many exchanges.
    rw [(ha.history m).account.holders_of_full (hfull m hm), (history_target a m).1]
  · -- It holds none of them itself.
    rintro rfl
    by_cases hne : m = []
    · rw [hne, history, holdsSlot, h.arrived] at hy
      cases hy
    · obtain ⟨p, hp, hno⟩ := (ha.history m).account.distinct.hasSlot_of_mem_queuedIds
        ((ha.history m).queue_eq ▸ hqueue m hm hne)
      rw [holdsSlot_of_phase? hp, hno] at hy
      cases hy
  · -- Whoever holds one had it then, or was granted it out of the queue.
    exact (ha.account.held_or_granted hy).imp_right fun hgranted =>
      hgrants.subset (grants_mono hm hgranted)

/-- Who is refused at its arrival has no time to wait, and finds all slots taken. -/
theorem Orderly.inVain_of_refused (h : s.Orderly) (hx : s.phase? x = none)
    (hfull : s.pool.slots.free = 0) (hwait : s.target.queueWait = 0) : WaitedInVain s x [] := by
  have hnil : ∀ {P : List Occurrence → Prop}, P [] → ∀ m, m <+: [] → P m := fun h m hm =>
    List.prefix_nil.mp hm ▸ h
  refine ⟨hx, hnil ⟨hfull, h.account.holders_of_full hfull⟩, hnil fun y hy => ⟨?_, .inl hy⟩,
    hnil fun hne => absurd rfl hne, List.nil_sublist _, by simp [hwait, Station.history]⟩
  rintro rfl
  rw [Station.history, holdsSlot, hx] at hy
  cases hy

/-- Whoever is sent away from the queue has waited for all of its time. -/
theorem expires_of_overdue (hp : s.phase? x = some (.queued timeout)) {draw : Nat}
    (hbusy : .failed x .gatewayBusy ∈ (s.step (.expire x draw)).2) :
    ∃ w ∈ s.pool.slots.waiting, w.holder = x ∧ w.expires ≤ s.now := by
  rw [step_eq_act (x := x) rfl, hp] at hbusy
  simp only [isWord, Bool.false_and, Bool.false_eq_true, if_false, act] at hbusy
  split at hbusy
  · next hdue =>
    simp only [isDue, timer?] at hdue
    cases hfind : s.pool.slots.waiting.find? (·.holder = x) with
    | none => simp [hfind] at hdue
    | some w =>
      exact ⟨w, List.mem_of_find?_eq_some hfind, by simpa using List.find?_some hfind,
        by simpa [hfind] using hdue⟩
  · cases hbusy

/-- **No refusal is spurious.** -/
theorem Orderly.inVain_of_busy (h : s.Orderly) (hempty : s.exchanges = []) (os : List Occurrence)
    (o : Occurrence) (hbusy : .failed x .gatewayBusy ∈ ((s.history os).1.occur o).2) :
    ∃ past during timeout, os = past ++ during ∧
      (during ++ [o]).head? = some (.event (.request x timeout)) ∧
      WaitedInVain (s.history past).1 x during := by
  have horderly := h.history os
  obtain ⟨e, rfl, hfailing⟩ := failing_occur horderly.account o hbusy
  obtain ⟨-, ⟨hnone, timeout, rfl⟩ | ⟨timeout, draw, hqueued, rfl⟩⟩ := hfailing.of_busy
  · -- It is refused as it arrives.
    refine ⟨os, [], timeout, (List.append_nil _).symm, rfl, ?_⟩
    have hrefused : (s.history os).1.pool.slots.free = 0 ∧
        (s.history os).1.target.queueWait = 0 := by
      change _ ∈ ((s.history os).1.request x timeout).2 at hbusy
      simp only [request, hnone, Slots.request] at hbusy
      by_cases hfree : 0 < (s.history os).1.pool.slots.free
      · simp [hfree] at hbusy
      · by_cases hwait : (s.history os).1.target.queueWait = 0
        · exact ⟨by omega, hwait⟩
        · simp [hfree, hwait] at hbusy
    exact horderly.inVain_of_refused hnone hrefused.1 hrefused.2
  · -- It has waited since it arrived, and its wait is over.
    obtain ⟨past, timeout', rest, rfl, hwaits⟩ :=
      h.exists_arrival hempty os (horderly.mem_queue_of_queued hqueued)
    refine ⟨past, _, timeout', rfl, rfl, hwaits.inVain (h.history past) ?_⟩
    rw [history_append] at hqueued hbusy
    obtain ⟨w, hw, hholder, hexpires⟩ := expires_of_overdue hqueued hbusy
    rw [hwaits.expires w hw hholder] at hexpires
    exact hexpires

/-- An exchange that was refused or dropped is gone. -/
theorem Orderly.gone (h : s.Orderly) (o : Occurrence)
    (hleaves : .failed x .gatewayBusy ∈ (s.occur o).2 ∨ o = .event (.drop x)) :
    (s.occur o).1.phase? x = none := by
  rcases hleaves with hbusy | rfl
  · obtain ⟨e, -, hfailing⟩ := failing_occur h.account o hbusy
    exact hfailing.of_busy.1
  · cases hp : s.phase? x with
    | some p => exact gone_of_drop h.account hp
    | none =>
      show (s.step (.drop x)).1.phase? x = none
      rw [step_eq_act (x := x) rfl, hp]
      exact hp

/-- Whoever arrives while a slot is free is given it. -/
theorem step_request_of_free (hx : s.phase? x = none) (hfree : 0 < s.pool.slots.free)
    (timeout : Nat) : (s.step (.request x timeout)).2 = [.granted x] ∧
      (s.step (.request x timeout)).1.phase? x = some (.granted timeout) := by
  show (s.request x timeout).2 = _ ∧ (s.request x timeout).1.phase? x = _
  simp only [request, hx, Slots.request, hfree, if_true]
  exact ⟨rfl, phase?_insert_self (s := s.withSlots _) hx⟩

/-- Whoever holds a slot does not wait for one. -/
theorem Orderly.not_mem_queue_of_slot (h : s.Orderly) (hslot : s.holdsSlot x = true) :
    x ∉ s.pool.slots.queue := by
  obtain ⟨p, hp, hheld⟩ := (Option.any_eq_true _ _).mp hslot
  exact h.queue_eq ▸ h.account.not_mem_queuedIds hp hheld

/-- **No spurious refusal.** After every history:

- Who is told that the gateway is busy arrived at some time before and found, at every moment since,
  all slots held by others that held one by then or stood before it in the queue; as long as it is
  allowed to wait has passed by now.
- A slot that is given back passes to who has waited longest, so grants come in order of arrival, and
  nobody waits while a slot is free.
- Who was refused or gave up holds no slot, does not wait and is granted none, unless it asks again.
- Who was given a slot is not told that the gateway is busy unless it asks again, even where its wait
  was over at that moment.
- Who arrives while a slot is free is given one at once, however short the wait may be. -/
theorem no_spurious_busy (target : Target) (policy : Policy) (os : List Occurrence) :
    let s := ((ofTarget target policy).history os).1
    (∀ x o, .failed x .gatewayBusy ∈ (s.occur o).2 →
      ∃ past during timeout, os = past ++ during ∧
        (during ++ [o]).head? = some (.event (.request x timeout)) ∧
        WaitedInVain ((ofTarget target policy).history past).1 x during) ∧
    (∀ x o, .freed x ∈ (s.occur o).2 → grants (s.occur o).2 = s.queuedIds.head?.toList ∧
      (s.occur o).1.queuedIds = s.queuedIds.tail) ∧
    (grants ((ofTarget target policy).history os).2 ++ s.queuedIds).Sublist (requests os) ∧
    (0 < s.pool.slots.free → s.queuedIds = []) ∧
    (∀ x o more, (.failed x .gatewayBusy ∈ (s.occur o).2 ∨ o = .event (.drop x)) →
      (∀ o' ∈ more, o'.isRequest x = false) →
      x ∉ ((s.occur o).1.history more).1.pool.slots.held ∧
        x ∉ ((s.occur o).1.history more).1.queuedIds ∧
        x ∉ grants ((s.occur o).1.history more).2) ∧
    (∀ x more, s.holdsSlot x = true → (∀ o' ∈ more, o'.isRequest x = false) →
      .failed x .gatewayBusy ∉ (s.history more).2) ∧
    ∀ x timeout more, 0 < s.pool.slots.free → s.phase? x = none →
      (∀ o' ∈ more, o'.isRequest x = false) →
      (s.step (.request x timeout)).2 = [.granted x] ∧
        .failed x .gatewayBusy ∉ (s.history (.event (.request x timeout) :: more)).2 := by
  intro s
  have hstart := Orderly.ofTarget target policy
  have h : s.Orderly := hstart.history os
  refine ⟨fun x o hbusy => hstart.inVain_of_busy rfl os o hbusy, fun x o hfreed => ?_, ?_,
    h.queuedIds_of_free, fun x o more hleaves hmore => ?_, fun x more hslot hmore => ?_,
    fun x timeout more hfree hx hmore => ?_⟩
  · -- A freed slot goes to the head of the queue.
    have hhanded := (h.account.slotMove o).handed ((mem_frees _ x).mpr hfreed)
    rw [(h.occur o).queue_eq, h.queue_eq] at hhanded
    exact hhanded
  · -- Grants and queue are in the order of arrival.
    have hturn := hstart.inTurn os
    rw [h.queue_eq] at hturn
    exact hturn
  · -- Whoever has left is nowhere any more.
    have hnone := h.gone o hleaves
    have hafter := h.occur o
    obtain ⟨hqueue, hgrants, -, hheld⟩ := hafter.apart hmore (hafter.not_mem_queue_of_none hnone)
    exact ⟨hheld (hafter.not_mem_held_of_none hnone), (hafter.history more).queue_eq ▸ hqueue,
      hgrants⟩
  · -- Who has a slot is not busy.
    exact (h.apart hmore (h.not_mem_queue_of_slot hslot)).2.2.1
  · -- With a slot free, a request is granted at once, and is not busy later.
    obtain ⟨heffects, hgranted⟩ := step_request_of_free hx hfree timeout
    have hafter : (s.step (.request x timeout)).1.Orderly := h.occur (.event (.request x timeout))
    obtain ⟨-, -, hbusy, -⟩ :=
      hafter.apart hmore (hafter.not_mem_queue_of_slot (holdsSlot_of_phase? hgranted))
    refine ⟨heffects, fun hmem => ?_⟩
    rcases List.mem_append.mp hmem with hmem | hmem
    · change _ ∈ (s.step (.request x timeout)).2 at hmem
      rw [heffects] at hmem
      simp at hmem
    · exact hbusy hmem

/-- Four exchanges for two slots. When the first is dropped its slot passes to the third, and the
fourth is refused after its wait. -/
theorem no_spurious_busy_four :
    let os : List Occurrence := [.event (.request 0 1000), .event (.request 1 1000),
      .event (.request 2 1000), .event (.request 3 1000), .delay 20, .event (.drop 0), .delay 30]
    let s := ((ofTarget sampleTarget samplePolicy).history os).1
    .failed 3 .gatewayBusy ∈ (s.occur (.event (.expire 3 0))).2 ∧
      grants ((ofTarget sampleTarget samplePolicy).history os).2 = [0, 1, 2] ∧
      (∃ past during timeout, os = past ++ during ∧
        (during ++ [Occurrence.event (.expire 3 0)]).head? = some (.event (.request 3 timeout)) ∧
        WaitedInVain ((ofTarget sampleTarget samplePolicy).history past).1 3 during) ∧
      3 ∉ (s.occur (.event (.expire 3 0))).1.pool.slots.held := by
  intro os s
  obtain ⟨hvain, -, -, -, hgone, -⟩ := no_spurious_busy sampleTarget samplePolicy os
  have hbusy : .failed 3 .gatewayBusy ∈ (s.occur (.event (.expire 3 0))).2 := by decide
  exact ⟨hbusy, by decide, hvain 3 _ hbusy, (hgone 3 _ [] (.inl hbusy) (by simp)).1⟩

end Station

end ObliviousRelay.Gateway
