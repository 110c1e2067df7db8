import ObliviousRelay.Proofs.Gateway.Clients
import ObliviousRelay.Proofs.Gateway.Counters
import ObliviousRelay.Proofs.Gateway.IdleSearch
import ObliviousRelay.Proofs.Gateway.Turns
import ObliviousRelay.Proofs.Routing.Registry

/-!
# A lease that fails leaves no trace

Who asks for a lease and fails has the pool as it was, up to the idle connections: they are gone where
the search among them was made, and then each of them was unfit.

While nobody else comes or goes, a call for a lease has done one of three things to the pool: it stands
in the queue, it holds a slot, or it holds a slot and has closed what lay idle (`Call`). Each failure
takes the first two back; nothing takes back the third.

- `Transition.call` and `call_history`: what comes of a call (`CallLeads`), and what its failure leaves
  (`CallFails`).
- `failed_lease_traceless`: what this means for the client of all gateways.
-/

namespace ObliviousRelay.Gateway

/-- The slots after a free one was taken. -/
def Slots.taken (slots : Slots Nat) (x : Nat) : Slots Nat :=
  { slots with free := slots.free - 1, held := x :: slots.held }

/-- A pool after all that lay idle was closed. -/
def Pool.emptied (pool : Pool) : Pool :=
  { pool with idle := [], openCount := pool.openCount - pool.idle.length }

namespace Station

variable {s t : Station} {x timeout : Nat} {p : Phase} {e : Event} {o : Occurrence} {out : Outcome}
  {f : Failure} {pool : Pool} {b : Option Phase} {os rest : List Occurrence}

/-! ## Where a call stands -/

/-- All that lay idle at a state was found unfit when the exchange went on. -/
def FoundUnfit (s : Station) (x : Nat) (os : List Occurrence) : Prop :=
  ∃ before after, os = before ++ .event (.proceed x) :: after ∧
    ∀ c ∈ s.pool.idle,
      ¬ c.IsFit (s.history before).1.isLost s.policy.idleTimeout (s.history before).1.now

/-- What a call for a lease has done to the pool of a state, by where it stands. -/
inductive Call (s : Station) (x : Nat) (os : List Occurrence) (pool : Pool) : Option Phase → Prop where
  | queued (timeout expires : Nat)
      (hpool : pool = { s.pool with slots := { s.pool.slots with
        waiting := s.pool.slots.waiting ++ [⟨x, expires⟩] } }) :
      Call s x os pool (some (.queued timeout))
  | granted (timeout : Nat) (hfree : 0 < s.pool.slots.free)
      (hpool : pool = { s.pool with slots := s.pool.slots.taken x }) :
      Call s x os pool (some (.granted timeout))
  | dialling (d : Timing.Deadline) (dial : Dial) (hfree : 0 < s.pool.slots.free)
      (hunfit : FoundUnfit s x os)
      (hpool : pool = { s.pool.emptied with slots := s.pool.slots.taken x }) :
      Call s x os pool (some (.dialling d .lease dial))
  /-- The call is over. -/
  | ended : Call s x os pool none

/-- What a failed call leaves of the pool of a state, by its failure. -/
inductive CallFails (s : Station) (x : Nat) (os : List Occurrence) : Failure → Pool → Prop where
  | busy : CallFails s x os .gatewayBusy s.pool
  | gaveUp (f : Failure) (hf : f = .gatewayTimeout ∨ ∃ detail, f = .gatewayUnreachable detail)
      (hunfit : FoundUnfit s x os) : CallFails s x os f s.pool.emptied

/-- What has come of a call: where it stands, and what it has left if it has failed. -/
structure CallLeads (s : Station) (x : Nat) (os : List Occurrence) (pool : Pool) (b : Option Phase)
    (effects : List Effect) : Prop where
  stands : Call s x os pool b
  traceless : ∀ f, .failed x f ∈ effects → b = none ∧ CallFails s x os f pool

/-- What was found unfit stays so. -/
theorem FoundUnfit.concat (h : FoundUnfit s x os) (o : Occurrence) : FoundUnfit s x (os ++ [o]) := by
  obtain ⟨before, after, rfl, hunfit⟩ := h
  exact ⟨before, after ++ [o], by simp, hunfit⟩

/-- A call stands where it stood, whatever is added to its record. -/
theorem Call.concat (h : Call s x os pool b) (o : Occurrence) : Call s x (os ++ [o]) pool b := by
  cases h with
  | queued timeout expires hpool => exact .queued timeout expires hpool
  | granted timeout hfree hpool => exact .granted timeout hfree hpool
  | dialling d dial hfree hunfit hpool => exact .dialling d dial hfree (hunfit.concat o) hpool
  | ended => exact .ended

/-- A failed call stays failed. -/
theorem CallFails.concat (h : CallFails s x os f pool) (o : Occurrence) :
    CallFails s x (os ++ [o]) f pool := by
  cases h with
  | busy => exact .busy
  | gaveUp f hf hunfit => exact .gaveUp f hf (hunfit.concat o)

/-- A call that has not failed has left nothing. -/
theorem Call.leads {effects : List Effect} (h : Call s x os pool b)
    (hno : ∀ f, .failed x f ∉ effects) : CallLeads s x os pool b effects :=
  ⟨h, fun f hf => absurd hf (hno f)⟩

/-! ## Slots that are taken back -/

/-- To give back a slot that was free before leaves the slots as they were. -/
theorem finish_of_taken (hs : s.Orderly) (hfree : 0 < s.pool.slots.free) (ht : t.SlotAccount)
    (hp : t.phase? x = some p) (hslot : p.hasSlot = true)
    (hslots : t.pool.slots = s.pool.slots.taken x) :
    (t.finish x).1.pool = { t.pool with slots := s.pool.slots } := by
  have hwaiting : t.pool.slots.waiting = [] := by rw [hslots]; exact hs.unwasted hfree
  obtain ⟨-, heq⟩ | ⟨w, rest, timeout, hw, -, -, -⟩ := ht.finish_cases hp hslot
  · have hback : s.pool.slots.free - 1 + 1 = s.pool.slots.free := Nat.sub_add_cancel hfree
    rw [heq, hslots]
    simp [withSlots, Station.erase, Slots.taken, hback]
  · exact absurd (hwaiting.symm.trans hw) (List.cons_ne_nil w rest).symm

/-- To leave the queue again leaves the slots as they were. -/
theorem withdraw_of_queued (hs : s.Orderly) (hx : s.phase? x = none) (expires : Nat) :
    Slots.withdraw { s.pool.slots with waiting := s.pool.slots.waiting ++ [⟨x, expires⟩] } x =
      s.pool.slots := by
  have hkeep : s.pool.slots.waiting.filter (·.holder ≠ x) = s.pool.slots.waiting :=
    List.filter_eq_self.mpr fun w hw => by
      have hne : w.holder ≠ x := fun heq =>
        hs.not_mem_queue_of_none hx (heq ▸ List.mem_map_of_mem hw)
      simpa using hne
  rw [Slots.withdraw, List.filter_append, hkeep]
  simp

/-! ## The steps of a call -/

/-- An attempt that ends the making of a connection fails in time, or by the deadline. -/
theorem GivesUp.failure {dial : Dial} {before : List Effect} (h : GivesUp s x e dial before f) :
    f = .gatewayTimeout ∨ ∃ detail, f = .gatewayUnreachable detail := by
  cases h with
  | exhausted => exact .inr ⟨_, rfl⟩
  | deadline | pause => exact .inl rfl

/-- The only phases of a call that pass into each other are those of its attempts. -/
theorem Passage.call {q : Phase} {effects : List Effect} (h : Passage t x e p q effects)
    (hcall : Call s x os pool (some p)) :
    CallLeads s x (os ++ [.event e]) pool (some q) effects := by
  cases h with
  | pause d purpose attempt bound delay length hfails =>
    cases hcall with
    | dialling d dial hfree hunfit hpool =>
      exact (Call.dialling d _ hfree (hunfit.concat _) hpool).leads (by simp)
  | retry d purpose attempt ending draw =>
    cases hcall with
    | dialling d dial hfree hunfit hpool =>
      exact (Call.dialling d _ hfree (hunfit.concat _) hpool).leads (by simp)
  | _ => cases hcall

/-- A call that does not get its slot in time leaves the pool as it was. -/
theorem Call.overdue (hs : s.Orderly) (hx : s.phase? x = none)
    (h : Call s x os t.pool (some (.queued timeout))) :
    ((t.erase x).withSlots (t.pool.slots.withdraw x)).pool = s.pool := by
  cases h with
  | queued timeout expires hpool =>
    show { t.pool with slots := t.pool.slots.withdraw x } = s.pool
    rw [hpool, withdraw_of_queued hs hx expires]

/-- A call that gives up gives its slot back. -/
theorem Ending.call {tail : List Effect} (hs : s.Orderly) (ht : t.SlotAccount)
    (hp : t.phase? x = some p) (h : Ending t x e p out tail) (hcall : Call s x os t.pool (some p)) :
    CallLeads s x (os ++ [.event e]) (out.1.finish x).1.pool ((out.1.finish x).1.phase? x)
      (out.2 ++ (out.1.finish x).2 ++ tail) := by
  have hgone := (ht.disposal h).phase?_finish_self ((h.phase?_disposal x).trans hp) h.hasSlot
  rw [hgone]
  refine ⟨.ended, fun f hf => ⟨rfl, ?_⟩⟩
  rw [List.mem_append, List.mem_append] at hf
  have htail := hf.resolve_left fun hbefore =>
    hbefore.elim h.failed_not_mem (failed_not_mem_finish _ x x f)
  cases h with
  -- A call ends by itself only by giving up, and gives its slot back.
  | giveUp d hgives =>
    obtain rfl : f = _ := by simpa using htail
    cases hcall with
    | dialling d dial hfree hunfit hpool =>
      have hback := finish_of_taken hs hfree ht hp rfl (by rw [hpool])
      rw [hpool] at hback
      show CallFails s x _ _ (t.finish x).1.pool
      rw [hback]
      exact .gaveUp _ hgives.failure (hunfit.concat _)
  -- The other endings tell of no failure.
  | _ => simp at htail

/-- **A step of a call leads on**, and if the call fails it has left no trace. -/
theorem Transition.call (hs : s.Orderly) (hx : s.phase? x = none) (ht : t.SlotAccount)
    (htrans : Transition t e out) (he : e.about? = some x)
    (hrequest : (Occurrence.event e).isRequest x = false)
    (hcall : Call s x os t.pool (t.phase? x)) (hleased : ∀ reused, .leased x reused ∉ out.2)
    (hproceed : e = .proceed x → ∀ timeout, t.phase? x = some (.granted timeout) →
      FoundUnfit s x (os ++ [.event e])) :
    CallLeads s x (os ++ [.event e]) out.1.pool (out.1.phase? x) out.2 := by
  have hsame : ∀ {y : Nat}, e.about? = some y → y = x := fun hy => Option.some.inj (hy.symm.trans he)
  cases htrans with
  | still => exact (hcall.concat _).leads fun f => List.not_mem_nil
  | lose | elapse => cases he
  -- No second request comes for the same exchange.
  | accept y | enqueue y | refuse y =>
    obtain rfl := hsame (y := y) rfl
    simp [Occurrence.isRequest] at hrequest
  -- A lease that has ended is none of a call's.
  | dead y m hp =>
    obtain rfl := hsame (y := y) rfl
    rw [hp] at hcall
    cases hcall
  -- A request that is taken back leaves the queue.
  | withdraw y timeout hp =>
    obtain rfl := hsame (y := y) rfl
    rw [phase?_withSlots, phase?_erase_self]
    exact Call.ended.leads fun f => List.not_mem_nil
  -- The wait was in vain, and the queue is as it was.
  | overdue y timeout draw hp =>
    obtain rfl := hsame (y := y) rfl
    rw [hp] at hcall
    dsimp only
    rw [phase?_withSlots, phase?_erase_self, hcall.overdue hs hx]
    refine ⟨.ended, fun f hf => ⟨rfl, ?_⟩⟩
    obtain rfl : f = .gatewayBusy := by simpa using hf
    exact .busy
  -- A reused connection would have been leased.
  | reuse y =>
    obtain rfl := hsame (y := y) rfl
    exact absurd (by simp) (hleased true)
  -- It dials: nothing in the pool was fit.
  | dial y timeout hp =>
    obtain rfl := hsame (y := y) rfl
    have hunfit := hproceed rfl timeout hp
    rw [phase?_setPhase_self (s := t.withIdle [] t.pool.idle.length) hp]
    rw [hp] at hcall
    cases hcall with
    | granted timeout hfree hpool =>
      refine (Call.dialling _ _ hfree hunfit ?_).leads (by simp)
      show { t.pool with idle := [], openCount := t.pool.openCount - t.pool.idle.length } = _
      rw [hpool]
      rfl
  -- A call passes from one stage to the next.
  | pass y hp hpass =>
    obtain rfl := hsame hpass.about.1
    rw [hp] at hcall
    rw [phase?_setPhase_self hp]
    exact hpass.call hcall
  | lossOf y hp hloss =>
    obtain rfl := hsame hloss.about.1
    rw [hp] at hcall
    -- A call owns no connection that it could lose.
    cases hcall <;> cases hloss.connection?_eq.1
  -- A new connection would have been leased.
  | gain y d purpose attempt bound stops hp hgain =>
    obtain rfl := hsame (y := y) rfl
    rw [hp] at hcall
    cases hcall
    cases hgain
    exact absurd (by simp [opened]) (hleased false)
  -- Only an exchange that has been leased gives up without leaving.
  | surrender y hp hsurrender =>
    obtain rfl := hsame hsurrender.about.1
    obtain ⟨d, purpose, hpurpose, hgives⟩ := hsurrender
    rw [hp] at hcall
    cases hcall
    exact absurd rfl hpurpose
  | ending y hp hending =>
    obtain rfl := hsame hending.about.1
    rw [hp] at hcall
    exact hending.call hs ht hp hcall

/-- What is about nobody changes nothing but the clock and what is lost. -/
theorem occur_of_about_none (ho : o.about? = none) : (t.occur o).1.pool = t.pool ∧
    (t.occur o).1.phase? x = t.phase? x ∧ (t.occur o).2 = [] := by
  cases o with
  | delay duration => exact ⟨rfl, rfl, rfl⟩
  | event e =>
    cases e <;> simp only [Occurrence.about?, Event.about?, subject?, reduceCtorEq] at ho
    · exact ⟨rfl, rfl, rfl⟩
    · simp only [occur, Station.step]
      split <;> exact ⟨rfl, rfl, rfl⟩

/-- Nothing that is about an exchange that is gone changes anything, unless it asks again. -/
theorem occur_of_gone (hx : t.phase? x = none) (ho : o.about? = none ∨ o.about? = some x)
    (hrequest : o.isRequest x = false) : (t.occur o).1.pool = t.pool ∧
      (t.occur o).1.phase? x = none ∧ (t.occur o).2 = [] := by
  -- What is about nobody leaves all as it is.
  rcases ho with hnone | hown
  · obtain ⟨hpool, hphase, heffects⟩ := occur_of_about_none (x := x) hnone
    exact ⟨hpool, hphase.trans hx, heffects⟩
  -- What is about the exchange finds nobody there.
  · cases o with
    | delay duration => cases hown
    | event e =>
      have hsubject : subject? e = some x := by
        cases e <;> first | exact hown | skip
        simp [Occurrence.isRequest, Occurrence.about?, Event.about?] at hrequest hown
        exact absurd hown hrequest
      have hstep : t.step e = (t, []) := by rw [step_eq_act hsubject, hx]
      show (t.step e).1.pool = _ ∧ (t.step e).1.phase? x = _ ∧ (t.step e).2 = _
      rw [hstep]
      exact ⟨rfl, hx, rfl⟩

/-- A call begins with a request. -/
theorem call_request (hx : s.phase? x = none) (timeout : Nat) :
    let os : List Occurrence := [.event (.request x timeout)]
    CallLeads s x os (s.history os).1.pool ((s.history os).1.phase? x) (s.history os).2 := by
  intro os
  have hhistory : s.history os = s.step (.request x timeout) := by
    rw [history_cons]
    simp [history, occur]
  rw [hhistory]
  have htrans := step_transition s (.request x timeout)
  generalize s.step (.request x timeout) = out at htrans
  cases htrans with
  | still =>
    rw [hx]
    exact Call.ended.leads fun f => List.not_mem_nil
  -- A slot is free, and granted.
  | accept y timeout hy hfree =>
    rw [phase?_withSlots, phase?_insert_self hx]
    exact (Call.granted timeout hfree rfl).leads (by simp)
  -- It waits in the queue.
  | enqueue y timeout =>
    rw [phase?_withSlots, phase?_insert_self hx]
    exact (Call.queued timeout _ rfl).leads fun f => List.not_mem_nil
  -- The queue is closed to it, and the call fails at once.
  | refuse y timeout =>
    rw [hx]
    refine ⟨.ended, fun f hf => ⟨rfl, ?_⟩⟩
    obtain rfl : f = .gatewayBusy := by simpa using hf
    exact .busy
  -- All else needs an exchange that is in progress.
  | pass y hp hpass =>
    obtain rfl := Option.some.inj hpass.about.1
    cases hx.symm.trans hp
  | lossOf y hp hloss =>
    obtain rfl := Option.some.inj hloss.about.1
    cases hx.symm.trans hp
  | surrender y hp hsurrender =>
    obtain rfl := Option.some.inj hsurrender.about.1
    cases hx.symm.trans hp
  | ending y hp hending =>
    obtain rfl := Option.some.inj hending.about.1
    cases hx.symm.trans hp

/-! ## Whole calls -/

/-- An occurrence that comes in the course of a call: it is about the call or about nobody, and does
not ask again. -/
def IsAlone (x : Nat) (o : Occurrence) : Prop :=
  (o.about? = none ∨ o.about? = some x) ∧ o.isRequest x = false

instance (x : Nat) (o : Occurrence) : Decidable (IsAlone x o) :=
  inferInstanceAs (Decidable ((o.about? = none ∨ o.about? = some x) ∧ o.isRequest x = false))

/-- **One occurrence more leads a call on.** -/
theorem CallLeads.occur (hs : s.Orderly) (hx : s.phase? x = none)
    (h : CallLeads s x os (s.history os).1.pool ((s.history os).1.phase? x) (s.history os).2)
    (ho : IsAlone x o) (hleased : ∀ reused, .leased x reused ∉ ((s.history os).1.occur o).2) :
    CallLeads s x (os ++ [o]) ((s.history os).1.occur o).1.pool
      (((s.history os).1.occur o).1.phase? x) ((s.history os).2 ++ ((s.history os).1.occur o).2) := by
  -- A call that has failed is gone, and nothing follows any more.
  have hafter : ∀ f, .failed x f ∈ (s.history os).2 →
      ((s.history os).1.occur o).1.phase? x = none ∧
        CallFails s x (os ++ [o]) f ((s.history os).1.occur o).1.pool := by
    intro f hf
    obtain ⟨hgone, hleft⟩ := h.traceless f hf
    obtain ⟨hpool, hstays, -⟩ := occur_of_gone hgone ho.1 ho.2
    exact ⟨hstays, hpool ▸ hleft.concat o⟩
  -- The clock, or an event of the exchange itself.
  rcases ho.1 with hnone | hown
  · obtain ⟨hpool, hphase, heffects⟩ := occur_of_about_none (x := x) (t := (s.history os).1) hnone
    rw [hphase, hpool] at hafter ⊢
    exact ⟨h.stands.concat o, fun f hf => hafter f (by simpa [heffects] using hf)⟩
  · cases o with
    | delay duration => cases hown
    | event e =>
      have hpolicy := (history_target s os).2
      have hnext := Transition.call hs hx (hs.history os).account
        (step_transition (s.history os).1 e) hown ho.2 h.stands hleased (by
          rintro rfl timeout hgranted
          have hunfit := unfit_of_not_leased hgranted (hleased true)
          have hstands := h.stands
          rw [hgranted] at hstands
          cases hstands with
          | granted timeout hfree hpool =>
            rw [hpool, hpolicy] at hunfit
            exact ⟨os, [], rfl, hunfit⟩)
      -- It failed before, or it fails in this step.
      exact ⟨hnext.stands, fun f hf =>
        (List.mem_append.mp hf).elim (hafter f) (hnext.traceless f)⟩

/-- **Where a call stands, and what it leaves if it fails.** -/
theorem call_history (hs : s.Orderly) (hx : s.phase? x = none) (timeout : Nat)
    (rest : List Occurrence) (hrest : ∀ o ∈ rest, IsAlone x o)
    (hleased : ∀ reused, .leased x reused ∉ (s.history (.event (.request x timeout) :: rest)).2) :
    let os : List Occurrence := .event (.request x timeout) :: rest
    CallLeads s x os (s.history os).1.pool ((s.history os).1.phase? x) (s.history os).2 := by
  induction rest using List.reverseRecOn with
  | nil => exact call_request hx timeout
  | append_singleton rest o ih =>
    simp only [List.forall_mem_append, List.forall_mem_singleton] at hrest
    simp only [← List.cons_append, history_concat, List.mem_append, not_or] at hleased ih ⊢
    exact (ih hrest.1 fun reused => (hleased reused).1).occur hs hx hrest.2 fun reused =>
      (hleased reused).2

/-- A call that came to a station `s`, and was followed by `rest`, has failed and left nothing of it at
the station `s'` but what its failure tells. -/
structure LeavesNoTrace (s : Station) (x timeout : Nat) (rest : List Occurrence) (f : Failure)
    (s' : Station) (effects : List Effect) : Prop where
  gone : s'.phase? x = none
  slots : s'.pool.slots = s.pool.slots
  leased : s'.pool.stats.leased = s.pool.stats.leased
  created : s'.pool.created = s.pool.created
  unopened : openings effects = 0
  /-- Where no slot became free in time, nothing has changed. -/
  busy : f = .gatewayBusy → s'.pool = s.pool
  /-- Else no connection could be made. What lay idle is closed, and was unfit when the call went on. -/
  gaveUp : f ≠ .gatewayBusy →
    (f = .gatewayTimeout ∨ ∃ detail, f = .gatewayUnreachable detail) ∧
    s'.pool.idle = [] ∧ s'.pool.openCount + s.pool.idle.length = s.pool.openCount ∧
    ∃ before after, rest = before ++ .event (.proceed x) :: after ∧
      let r := (s.history (.event (.request x timeout) :: before)).1
      ∀ c ∈ s.pool.idle, ¬ c.IsFit r.isLost s.policy.idleTimeout r.now

/-- **A call that fails leaves no trace.** -/
theorem leavesNoTrace_of_failed {effects : List Effect} (hs : s.Orderly)
    (hconnections : s.ConnectionAccount effects) (hx : s.phase? x = none)
    (hrest : ∀ o ∈ rest, IsAlone x o)
    (hfailed : .failed x f ∈ (s.history (.event (.request x timeout) :: rest)).2)
    (hleased : ∀ reused, .leased x reused ∉ (s.history (.event (.request x timeout) :: rest)).2) :
    LeavesNoTrace s x timeout rest f (s.history (.event (.request x timeout) :: rest)).1
      (s.history (.event (.request x timeout) :: rest)).2 := by
  obtain ⟨hgone, hleft⟩ := (call_history hs hx timeout rest hrest hleased).traceless f hfailed
  have hcreated := (balanced_history hconnections hs.account
    (.event (.request x timeout) :: rest)).1.created
  generalize (s.history (.event (.request x timeout) :: rest)).1 = s',
    (s.history (.event (.request x timeout) :: rest)).2 = effects at hgone hleft hcreated ⊢
  generalize hpool : s'.pool = pool at hleft
  cases hleft with
  -- Busy: the pool is as it was.
  | busy =>
    refine ⟨hgone, by rw [hpool], by rw [hpool], by rw [hpool], ?_, fun _ => hpool,
      fun hno => absurd rfl hno⟩
    rw [hpool] at hcreated
    omega
  -- Given up: all that was idle has been closed, and nothing opened.
  | gaveUp f hf hunfit =>
    have hopen : s.pool.idle.length ≤ s.pool.openCount := by
      rw [hconnections.openCount]
      exact Nat.le_add_right _ _
    refine ⟨hgone, by rw [hpool]; rfl, by rw [hpool]; rfl, by rw [hpool]; rfl, ?_, ?_,
      fun _ => ⟨hf, by rw [hpool]; rfl, ?_, ?_⟩⟩
    · rw [hpool] at hcreated
      change s.pool.created = _ at hcreated
      omega
    · rintro rfl
      rcases hf with hf | ⟨detail, hf⟩ <;> cases hf
    · rw [hpool]
      exact Nat.sub_add_cancel hopen
    · -- What was found unfit was found so after the request.
      obtain ⟨before, after, hsplit, hunfit⟩ := hunfit
      cases before with
      | nil => cases hsplit
      | cons o before =>
        obtain ⟨rfl, hrest⟩ := List.cons.inj hsplit
        exact ⟨before, after, hrest, hunfit⟩

end Station

/-! ## The client -/

namespace Client

open Station

variable {c : Client} {g : String} {s : Station} {t : Target} {f : Failure}

/-- A target is served by the station of its name. -/
theorem stationFor_eq_ok_iff : c.stationFor t = .ok s ↔ c.station? t.name = some s := by
  unfold stationFor
  split <;> simp [*]

/-- Without one, the gateway is unknown. -/
theorem stationFor_eq_error_iff :
    c.stationFor t = .error f ↔ f = .unknownGateway ∧ c.station? t.name = none := by
  unfold stationFor
  split <;> simp [*, eq_comm]

/-- A station of a client has come from a new one by what happened there. -/
theorem exists_history_of_station? {registry : Registry} {policy : Policy}
    {past : List ClientOccurrence}
    (hs : ((ofRegistry registry policy).history past).1.station? g = some s) :
    ∃ target, s = ((ofTarget target policy).history (partOf g past)).1 := by
  cases hfirst : (ofRegistry registry policy).station? g with
  | none =>
    rw [(station?_history_of_none hfirst past).1] at hs
    cases hs
  | some s₀ =>
    rw [(station?_history hfirst past).1, Option.some.injEq] at hs
    rw [station?_ofRegistry] at hfirst
    obtain ⟨target, -, rfl⟩ := Option.map_eq_some_iff.mp hfirst
    exact ⟨target, hs.symm⟩

/-- **A lease that fails leaves no trace.** At a gateway that is not known nothing is done at all. At
any other, while nobody else comes or goes there, a call that fails leaves the slots and the number of
connections made as they were, and opens none. If no slot became free in time the pool is as it was.
Otherwise no connection could be made, and the only difference is that nothing lies idle any more: what
did was unfit when the search was made, and that many connections less are open. -/
theorem failed_lease_traceless (registry : Registry) (policy : Policy)
    (past : List ClientOccurrence) (t : Target) :
    let c := ((ofRegistry registry policy).history past).1
    (∀ f, c.stationFor t = .error f → f = .unknownGateway ∧ ∀ e, c.step t.name e = (c, [])) ∧
    ∀ s x timeout during f, c.stationFor t = .ok s → s.phase? x = none →
      (∀ o ∈ partOf t.name during, IsAlone x o) →
      let last := c.history (.event t.name (.request x timeout) :: during)
      .failed x f ∈ effectsAt t.name last.2 → (∀ reused, .leased x reused ∉ effectsAt t.name last.2) →
      ∃ s', last.1.stationFor t = .ok s' ∧
        LeavesNoTrace s x timeout (partOf t.name during) f s' (effectsAt t.name last.2) := by
  intro c
  refine ⟨fun f hf => ?_, ?_⟩
  · -- No station: nothing happens.
    obtain ⟨rfl, hnone⟩ := stationFor_eq_error_iff.mp hf
    exact ⟨rfl, fun e => step_of_none hnone⟩
  · intro s x timeout during f hs hx hduring last hfailed hleased
    rw [stationFor_eq_ok_iff] at hs
    obtain ⟨target, hreached⟩ := exists_history_of_station? hs
    have horderly : s.Orderly := hreached ▸ (Orderly.ofTarget target policy).history _
    have hconnections := (accounts_ofTarget target policy (partOf t.name past)).2
    rw [← hreached] at hconnections
    -- The call is a history of the station by itself.
    have hpart : partOf t.name (.event t.name (.request x timeout) :: during) =
        .event (.request x timeout) :: partOf t.name during := by
      simp [partOf, ClientOccurrence.at?]
    obtain ⟨hstation, heffects⟩ :=
      station?_history hs (.event t.name (.request x timeout) :: during)
    rw [hpart] at hstation heffects
    rw [heffects] at hfailed hleased ⊢
    exact ⟨_, stationFor_eq_ok_iff.mpr hstation,
      leavesNoTrace_of_failed horderly hconnections hx hduring hfailed hleased⟩

/-- A lease for which two attempts to connect fail, after the connection that lay idle was lost. -/
theorem failed_lease_traceless_refused :
    let registry : Registry := ⟨[sampleTarget], none⟩
    let past : List ClientOccurrence := [.request 0 1000, .proceed 0, .connected 0, .send 0 default,
      .ready 0, .answered 0 .ok none, .ended 0, .release 0].map (.event "gateway")
    let during : List ClientOccurrence := [.event "gateway" (.lose 0), .event "gateway" (.proceed 1),
      .event "gateway" (.refused 1 "refused" 0), .delay 10, .event "gateway" (.expire 1 0),
      .event "gateway" (.refused 1 "refused" 0)]
    let c := ((ofRegistry registry samplePolicy).history past).1
    let last := c.history (.event "gateway" (.request 1 1000) :: during)
    ∃ s s', c.stationFor sampleTarget = .ok s ∧ s.pool.stats = ⟨1, 1, 0, 1⟩ ∧
      last.1.stationFor sampleTarget = .ok s' ∧
      LeavesNoTrace s 1 1000 (partOf "gateway" during) (.gatewayUnreachable "refused") s'
        (effectsAt "gateway" last.2) := by
  intro registry past during c last
  obtain ⟨-, htraceless⟩ := failed_lease_traceless registry samplePolicy past sampleTarget
  have hs : c.stationFor sampleTarget =
      .ok ((ofTarget sampleTarget samplePolicy).history (partOf "gateway" past)).1 :=
    stationFor_eq_ok_iff.mpr (station?_history rfl past).1
  obtain ⟨s', hs', hleft⟩ := htraceless _ 1 1000 during (.gatewayUnreachable "refused") hs (by decide)
    (by decide) (by decide) (by decide)
  exact ⟨_, s', hs, by decide, hs', hleft⟩

end Client

end ObliviousRelay.Gateway
