import ObliviousRelay.Proofs.Gateway.Turns

/-!
# A lease that failed once stays spent

Whatever a sending fails with, the lease has lost its connection by then, and gets no other one. It can
still be used, but to no effect; and when it is given back there is nothing to put aside.

The statements are about targets that requests can be built for. Else a sending fails before anything
was done with the connection, and the lease keeps it.

- `Lease` says where a lease stands after what has been seen of it, `Course.lease` what a step makes of
  one in good order, `lease_history` what a whole history does.
- `Spent` says what is left of a lease, `spent_of_phase?`.
- `lease_spent_for_good`: all of it.
-/

namespace ObliviousRelay.Gateway

/-- Whether an exchange has a lease in good order: it owns a connection, or has one made in the place
of the one that it had. -/
def Phase.hasLease : Phase → Bool
  | .held _ _ | .readying _ _ _ | .offering _ _ _ _ | .reading _ _ _ _ _ => true
  | .dialling _ .lease _ => false
  | .dialling _ _ _ => true
  | _ => false

/-- Whether an occurrence leaves an exchange the lease that it has: it neither gives it back nor asks
for one. -/
def Occurrence.keepsLease (x : Nat) (o : Occurrence) : Bool :=
  !o.isRequest x && decide (o ≠ .event (.release x)) && decide (o ≠ .event (.drop x))

namespace Station

variable {s u : Station} {x : Nat} {p : Phase} {e : Event} {o : Occurrence} {b : Option Phase}
  {told effects : List Effect} {rest : List Occurrence}

/-! ## Where a lease stands -/

/-- Where a lease stands after what has been seen: it is in good order and nothing has failed on it, or
it is spent and something has. An exchange that broke down has told of nothing else. -/
inductive Lease (x : Nat) (told : List Effect) : Option Phase → Prop where
  | inOrder (p : Phase) (hp : p.hasLease = true) (hfine : ∀ f, .failed x f ∉ told) :
      Lease x told (some p)
  | spent (hfailed : ∃ f, .failed x f ∈ told) : Lease x told (some .spent)
  | brokenDown (hover : .overflowed x ∈ told) (hfine : ∀ f, .failed x f ∉ told) : Lease x told none

/-- Whoever goes on with its slot and its connection keeps its lease in good order. -/
theorem Passage.keepsLease {q : Phase} (h : Passage s x e p q effects)
    (hbuilds : ∀ m f, wireRequest s.target m ≠ .error f) (hp : p.hasLease = true) :
    Lease x effects (some q) := by
  cases h with
  | unsendable c t m f hf => exact absurd hf (hbuilds m f)
  | pause d purpose | retry d purpose =>
    refine .inOrder _ ?_ (by simp)
    cases purpose with
    | lease => cases hp
    | offer | offerAgain => rfl
  | _ => exact .inOrder _ rfl (by simp)

/-- A lease whose connection is closed has another one made, or is spent. -/
theorem Loss.leavesLease {c : Connection} {q : Phase} {before after : List Effect}
    (h : Loss s x e p c q before after) : Lease x (before ++ .closed c.serial :: after) (some q) := by
  cases h with
  | stale | returned => exact .inOrder _ rfl (by simp)
  | @discard _ _ _ f => exact .spent ⟨f, by simp⟩

/-- A lease that has its connection made anew goes on. -/
theorem Gain.keepsLease {c : Connection} {d : Timing.Deadline} {purpose : Purpose} {q : Phase}
    (h : Gain s x c d purpose q effects) (hbuilds : ∀ m f, wireRequest s.target m ≠ .error f)
    (hpurpose : purpose ≠ .lease) : Lease x (s.opened.2.2 ++ effects) (some q) := by
  cases h with
  | lease => exact absurd rfl hpurpose
  | unsendable m f hf => exact absurd hf (hbuilds m f)
  | offer | offerAgain => exact .inOrder _ rfl (by simp [opened])

/-- **What a step makes of a lease in good order.** -/
theorem Course.lease (h : Course s x e (some p) b effects)
    (hbuilds : ∀ m f, wireRequest s.target m ≠ .error f) (hp : p.hasLease = true)
    (hkeeps : (Occurrence.event e).keepsLease x = true) : Lease x effects b := by
  obtain ⟨⟨-, hrelease⟩, hdrop⟩ : (_ ∧ e ≠ .release x) ∧ e ≠ .drop x := by
    simpa [Occurrence.keepsLease] using hkeeps
  -- Where the lease has not ended, it is in order after the move, or it is spent.
  cases h with
  | still => exact .inOrder p hp fun f => List.not_mem_nil
  | dead | withdraw | overdue | reuse | dial => cases hp
  -- A passage fails nobody, as requests can be built.
  | pass hpass => exact hpass.keepsLease hbuilds hp
  | loss hloss => exact hloss.leavesLease
  | gain d purpose attempt bound stops hgain =>
    refine hgain.keepsLease hbuilds ?_
    rintro rfl
    cases hp
  | @surrender e p before f => exact .spent ⟨f, by simp⟩
  | ending hending =>
    cases hending with
    | releaseClean | releaseUsed | releaseSpent => exact absurd rfl hrelease
    | drop => exact absurd rfl hdrop
    -- To give up without a lease is a matter of calls.
    | giveUp => cases hp
    -- A delay without room ends the exchange and tells of no failure.
    | breakDown =>
      have hfinish := failed_not_mem_finish s x x
      exact .brokenDown (by simp) (by simp [hfinish])

/-- A lease that is spent stays so as long as it is not given back. -/
theorem Course.spent (h : Course s x e (some .spent) b effects)
    (hkeeps : (Occurrence.event e).keepsLease x = true) : b = some .spent := by
  obtain ⟨⟨-, hrelease⟩, hdrop⟩ : (_ ∧ e ≠ .release x) ∧ e ≠ .drop x := by
    simpa [Occurrence.keepsLease] using hkeeps
  -- What a spent lease refuses leaves it spent.
  cases h with
  | still | dead => rfl
  | pass hpass => cases hpass
  | loss hloss => cases hloss.connection?_eq.1
  | surrender hsurrender => cases hsurrender
  | ending hending =>
    cases hending with
    | releaseSpent => exact absurd rfl hrelease
    | drop => exact absurd rfl hdrop

/-- What an occurrence makes of a lease. -/
theorem Lease.occur (hlease : Lease x told (s.phase? x)) (h : s.SlotAccount)
    (hbuilds : ∀ m f, wireRequest s.target m ≠ .error f) (hkeeps : o.keepsLease x = true) :
    Lease x (told ++ (s.occur o).2) ((s.occur o).1.phase? x) := by
  have hfate := occur_fate h o x
  generalize hb : s.phase? x = b, (s.occur o).1.phase? x = b', (s.occur o).2 = effects
    at hlease hfate ⊢
  cases hlease with
  -- Spent once, it stays so.
  | spent hfailed =>
    have hstays : b' = some .spent := by
      cases hfate with
      | aside => rfl
      | own hcourse => exact hcourse.spent hkeeps
    rw [hstays]
    exact .spent (hfailed.imp fun f hf => List.mem_append_left _ hf)
  | brokenDown hover hfine =>
    -- Nothing is seen any more of an exchange that is gone.
    have hquiet : b' = none ∧ ∀ f, .failed x f ∉ effects := by
      cases hfate with
      | aside o b effects hnot => exact ⟨rfl, fun f hf => hnot _ hf rfl⟩
      | own hcourse =>
        cases hcourse with
        | still => exact ⟨rfl, fun f => List.not_mem_nil⟩
        | accept | enqueue | refuse => simp [Occurrence.keepsLease, Occurrence.isRequest] at hkeeps
    rw [hquiet.1]
    exact .brokenDown (List.mem_append_left _ hover) fun f hf =>
      (List.mem_append.mp hf).elim (hfine f) (hquiet.2 f)
  -- In order so far: what happens now keeps it so, spends the lease or breaks it down.
  | inOrder p hp hfine =>
    have hnext : Lease x effects b' := by
      cases hfate with
      | aside o b effects hnot => exact .inOrder p hp fun f hf => hnot _ hf rfl
      | granted => cases hp
      | own hcourse => exact hcourse.lease hbuilds hp hkeeps
    have hfine' : (∀ f, .failed x f ∉ effects) → ∀ f, .failed x f ∉ told ++ effects :=
      fun hno f hf => (List.mem_append.mp hf).elim (hfine f) (hno f)
    cases hnext with
    | inOrder q hq hno => exact .inOrder q hq (hfine' hno)
    | spent hfailed => exact .spent (hfailed.imp fun f hf => List.mem_append_right _ hf)
    | brokenDown hover hno => exact .brokenDown (List.mem_append_right _ hover) (hfine' hno)

/-- **What a history makes of a lease.** -/
theorem lease_history (h : s.SlotAccount) (hbuilds : ∀ m f, wireRequest s.target m ≠ .error f)
    (hkeeps : ∀ o ∈ rest, o.keepsLease x = true) (hlease : Lease x told (s.phase? x)) :
    Lease x (told ++ (s.history rest).2) ((s.history rest).1.phase? x) := by
  induction rest generalizing s told with
  | nil =>
    rw [history, List.append_nil]
    exact hlease
  | cons o rest ih =>
    obtain ⟨ho, hrest⟩ := List.forall_mem_cons.mp hkeeps
    rw [history_cons, ← List.append_assoc]
    refine ih (h.occur o) ?_ hrest (hlease.occur h hbuilds ho)
    rw [(occur_target s o).1]
    exact hbuilds

/-! ## What is left of a spent lease -/

/-- An exchange leaves with its slot and nothing else: it is gone, its slot is given back once, and the
connections are what they were. -/
structure LeavesEmpty (u : Station) (x : Nat) (out : Outcome) : Prop where
  gone : out.1.phase? x = none
  idle : out.1.pool.idle = u.pool.idle
  openCount : out.1.pool.openCount = u.pool.openCount
  created : out.1.pool.created = u.pool.created
  once : frees out.2 = [x]
  /-- One slot less is in use, unless it was granted to another exchange at once. -/
  leased : out.1.pool.stats.leased + 1 = u.pool.stats.leased + (grants out.2).length

/-- A lease that is spent: it owns no connection, every use of it fails and changes nothing, and it
leaves with its slot and nothing else. -/
structure Spent (u : Station) (x : Nat) : Prop where
  unowned : (u.phase? x).bind Phase.connection? = none
  send : ∀ m, u.step (.send x m) = (u, [.failed x (.gatewayUnreachable "lease discarded")])
  release : LeavesEmpty u x (u.step (.release x))
  drop : LeavesEmpty u x (u.step (.drop x))

/-- The end of an exchange gives its slot back, and nothing else. -/
theorem SlotAccount.leavesEmpty_finish (h : u.SlotAccount) (hp : u.phase? x = some p)
    (hslot : p.hasSlot = true) : LeavesEmpty u x (u.finish x) := by
  obtain ⟨hidle, hopen, hcreated⟩ := h.finish_pool hp hslot
  refine ⟨h.phase?_finish_self hp hslot, hidle, hopen, hcreated, ?_, ?_⟩
  · -- What is told of the slot is one freed, and a grant if somebody waits.
    obtain heq | ⟨w, timeout, -, -, heq⟩ := h.finish_effects hp hslot <;> rw [heq] <;> rfl
  · -- One slot less is held, unless it was granted on.
    have hafter := (h.finish hp hslot)
    have hsum := h.conserved
    have hsum' := hafter.conserved
    rw [h.leased_eq, hafter.leased_eq]
    obtain ⟨-, heq⟩ | ⟨w, rest, timeout, -, -, -, heq⟩ := h.finish_cases hp hslot
    all_goals
      rw [heq] at hsum' ⊢
      simp only [withSlots_slots] at hsum'
      simp only [grants, List.filterMap_cons, Effect.granted?, List.filterMap_nil, List.length_nil,
        List.length_singleton]
      omega

/-- **A spent lease is good for nothing.** -/
theorem spent_of_phase? (h : u.SlotAccount) (hp : u.phase? x = some .spent) : Spent u x := by
  have hrelease : u.step (.release x) = u.finish x := by
    rw [step_eq_act (x := x) rfl, hp]
    rfl
  have hdrop : u.step (.drop x) = u.finish x := by
    rw [step_eq_act (x := x) rfl, hp]
    rfl
  -- What is done on a spent lease can only fail, release or drop it.
  refine ⟨by rw [hp]; rfl, fun m => ?_, ?_, ?_⟩
  · rw [step_eq_act (x := x) rfl, hp]
    rfl
  · rw [hrelease]
    exact h.leavesEmpty_finish hp rfl
  · rw [hdrop]
    exact h.leavesEmpty_finish hp rfl

/-- **A lease that failed once stays spent.** A lease is used in any way, whatever else happens, and
not given back. Once something has failed on it, it owns no connection, every further use of it fails
at once and changes nothing, and it leaves with its slot and nothing else. As long as nothing has
failed on it, and the exchange has not broken down, it owns a connection whenever it is not in use. -/
theorem lease_spent_for_good (target : Target) (policy : Policy)
    (hbuilds : ∀ m f, wireRequest target m ≠ .error f) (past rest : List Occurrence) (x : Nat)
    (c : Connection) (t : Terms)
    (hlease : ((ofTarget target policy).history past).1.phase? x = some (.held c t))
    (hkeeps : ∀ o ∈ rest, o.keepsLease x = true) :
    let s := ((ofTarget target policy).history past).1
    let u := (s.history rest).1
    let effects := (s.history rest).2
    ((∃ f, .failed x f ∈ effects) → u.phase? x = some .spent ∧ Spent u x) ∧
      ((∀ f, .failed x f ∉ effects) → .overflowed x ∉ effects → isAtRest (u.phase? x) = true →
        ∃ c t, u.phase? x = some (.held c t)) := by
  intro s u effects
  have h : s.SlotAccount := (accounts_ofTarget target policy past).1
  have htarget : s.target = target := (history_target _ past).1
  have hfirst : Lease x [] (s.phase? x) := by
    rw [hlease]
    exact .inOrder _ rfl fun f => List.not_mem_nil
  have hstands : Lease x effects (u.phase? x) :=
    lease_history h (htarget.symm ▸ hbuilds) hkeeps hfirst
  refine ⟨fun ⟨f, hf⟩ => ?_, fun hfine hover hrest => ?_⟩
  · -- Of the three ways in which a lease stands, only one has failed.
    have hspent : u.phase? x = some .spent := by
      generalize hb : u.phase? x = b at hstands
      cases hstands with
      | inOrder p hp hfine => exact absurd hf (hfine f)
      | spent => rfl
      | brokenDown hover hfine => exact absurd hf (hfine f)
    exact ⟨hspent, spent_of_phase? (h.history rest) hspent⟩
  · -- Nothing failed and nothing broke down: it is in order, and at rest it is held.
    generalize u.phase? x = b at hstands hrest
    cases hstands with
    | inOrder p hp _ =>
      cases p with
      | held c t => exact ⟨c, t, rfl⟩
      | spent => cases hp
      | _ => cases hrest
    | spent hfailed =>
      obtain ⟨f, hf⟩ := hfailed
      exact absurd hf (hfine f)
    | brokenDown hbroken => exact absurd hbroken hover

/-- A lease on a new connection that is found closed as it is used, twice. -/
theorem lease_spent_for_good_twice :
    let past : List Occurrence := [.event (.request 0 1000), .event (.proceed 0),
      .event (.connected 0)]
    let rest : List Occurrence := [.event (.send 0 default), .event (.unready 0 "closed")]
    let s := ((ofTarget sampleTarget samplePolicy).history past).1
    let u := (s.history rest).1
    .failed 0 (.gatewayUnreachable "closed") ∈ (s.history rest).2 ∧ Spent u 0 ∧
      u.pool.stats = ⟨0, 0, 1, 1⟩ ∧ (u.step (.release 0)).1.pool.stats = ⟨0, 0, 0, 1⟩ ∧
      ∃ c t, (s.history []).1.phase? 0 = some (.held c t) := by
  intro past rest s u
  -- Requests can be built, as the gateway's target can be addressed.
  have hbuilds : ∀ m f, wireRequest sampleTarget m ≠ .error f := fun m f hf =>
    absurd (not_isAddressable_of_wireRequest hf) (by decide)
  have hlease : s.phase? 0 = some (.held ⟨0, sampleTarget.endpoint, 0⟩
      ⟨.after 0 1000, false, false⟩) := by decide
  have hfailed : .failed 0 (.gatewayUnreachable "closed") ∈ (s.history rest).2 := by decide
  have hafter := lease_spent_for_good sampleTarget samplePolicy hbuilds past rest 0 _ _ hlease
    (by decide)
  have hbefore := lease_spent_for_good sampleTarget samplePolicy hbuilds past [] 0 _ _ hlease
    (by decide)
  exact ⟨hfailed, (hafter.1 ⟨_, hfailed⟩).2, by decide, by decide,
    hbefore.2 (fun f => List.not_mem_nil) List.not_mem_nil (by decide)⟩

end Station

end ObliviousRelay.Gateway
