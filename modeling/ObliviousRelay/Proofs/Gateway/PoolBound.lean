import ObliviousRelay.Proofs.Gateway.History

/-!
# The bound of a pool

How many connections a pool may have, whatever happens: no more, idle, owned and in the making, than
there were slots in use at a time so far.

Slots in use and idle connections together are no measure of this, for an idle connection may lie
beside every slot in use. What is bounded is the *load*: the idle connections, the exchanges that own
one and the exchanges that dial. It grows only when an exchange begins to dial, and then nothing lies
idle, so the load is at most the number of slots in use (`load_transition`).

- `Station.peak` is the largest number of slots in use at a time during a history.
- `load_history`: the load never exceeds it.
- `pool_bounded`: the bound of a pool.
-/

namespace ObliviousRelay.Gateway.Station

variable {s : Station} {x : Nat} {p q : Phase} {e : Event} {o : Outcome}

/-! ## Load -/

/-- How many exchanges are making a connection. -/
def diallers (s : Station) : Nat := s.tally (·.phase.isDialling.toNat)

/-- The connections of a station: those that lie idle, are owned, or are being made. -/
def load (s : Station) : Nat := s.pool.idle.length + s.ownerCount + s.diallers

/-- What an exchange in a phase adds to the load. -/
def engaged (p : Phase) : Nat := p.connection?.isSome.toNat + p.isDialling.toNat

/-- Whoever owns a connection or makes one holds a slot, and nobody does both. -/
theorem engaged_le_hasSlot (p : Phase) : engaged p ≤ p.hasSlot.toNat := by
  cases p <;> simp [engaged, Phase.connection?, Phase.isDialling, Phase.hasSlot]

theorem load_eq (s : Station) : s.load = s.pool.idle.length + s.tally (engaged ·.phase) := by
  have hsum : s.tally (engaged ·.phase) = s.ownerCount + s.diallers := List.sum_map_add
  rw [hsum, load, Nat.add_assoc]

/-- The load changes by what the exchange counts for in its old phase and in its new one. -/
theorem load_setPhase (hd : s.HasDistinctIds) (hp : s.phase? x = some p) :
    (s.setPhase x q).load + engaged p = s.load + engaged q := by
  have htally := tally_setPhase (q := q) (engaged ·.phase) hd hp
  rw [load_eq, load_eq, setPhase_pool]
  dsimp only at htally
  omega

/-- A station where nothing lies idle has no more load than slots in use. -/
theorem load_le_holders (hidle : s.pool.idle = []) : s.load ≤ s.holders := by
  rw [load_eq, hidle, List.length_nil, Nat.zero_add]
  exact tally_le_tally fun e _ => engaged_le_hasSlot e.phase

theorem Passage.engaged_eq {effects : List Effect} (h : Passage s x e p q effects) :
    engaged q = engaged p := by
  cases h <;> rfl

theorem Loss.engaged_le {c : Connection} {before after : List Effect}
    (h : Loss s x e p c q before after) : engaged q ≤ engaged p := by
  -- The exchange had a connection before, so it cannot come to count for more.
  have hone : engaged q ≤ 1 := (engaged_le_hasSlot q).trans (Bool.toNat_le _)
  apply hone.trans
  simp [engaged, h.connection?_eq.1]

/-- To dispose of a connection leaves at most that one more idle. -/
theorem Ending.disposal_idle_le {disposal : Outcome} {tail : List Effect}
    (h : Ending s x e p disposal tail) :
    disposal.1.pool.idle.length ≤ s.pool.idle.length + engaged p := by
  cases h with
  | releaseClean c t hclean =>
    unfold putAside
    split
    · exact Nat.le_add_right _ _
    · exact Nat.le_refl _
  | drop p hslot =>
    rw [closeOwn, closeAll_eq]
    exact Nat.le_add_right _ _
  | _ => exact Nat.le_add_right _ _

/-- **No transition raises the load, except to what the slots in use allow.** -/
theorem load_transition (h : s.SlotAccount) (ht : Transition s e o) :
    o.1.load ≤ s.load ∨ o.1.load ≤ o.1.holders := by
  cases ht with
  | still | dead | refuse | lose | elapse => exact .inl (Nat.le_refl _)
  -- Whoever waits counts for nothing, when it comes and when it goes.
  | accept x timeout | enqueue x timeout =>
    left
    rw [load_eq, load_eq, tally_withSlots, tally_insert]
    exact Nat.le_refl _
  | withdraw x timeout hp | overdue x timeout _ hp =>
    left
    rw [load_eq, load_eq, tally_withSlots, ← tally_erase (engaged ·.phase) h.distinct hp]
    exact Nat.le_refl _
  | @reuse x timeout c unusable left hp hidle =>
    left
    -- What was idle is owned now; the unusable ones before it are gone.
    have hload := load_setPhase (s := s.withIdle left unusable.length)
      (q := .held c ⟨.after s.now timeout, true, false⟩) h.distinct hp
    have hbefore : s.load = (unusable.length + (left.length + 1)) + s.tally (engaged ·.phase) := by
      simp [load_eq, hidle]
    rw [load_eq (s.withIdle left unusable.length), tally_withIdle] at hload
    change _ + 0 = left.length + _ + 1 at hload
    dsimp only
    omega
  -- The only transition that can raise the load finds nothing idle.
  | dial x timeout hp => exact .inr (load_le_holders rfl)
  -- A passage counts for the same before and after.
  | @pass e p q effects x hp hpass =>
    left
    have hload := load_setPhase (q := q) h.distinct hp
    rw [hpass.engaged_eq] at hload
    exact (Nat.add_right_cancel hload).le
  -- A lost connection counts no more.
  | @lossOf e p q c before after x hp hloss =>
    left
    have hload : _ = s.load + engaged q := load_setPhase (s := (s.close c).1) h.distinct hp
    have hless := hloss.engaged_le
    dsimp only
    omega
  | @gain q effects x d purpose attempt bound stops hp hgain =>
    left
    -- The exchange counted for one while it dialled.
    have hload : _ + 1 = s.load + engaged q := load_setPhase (s := s.opened.2.1) h.distinct hp
    have hone : engaged q ≤ 1 := (engaged_le_hasSlot q).trans (Bool.toNat_le _)
    dsimp only
    omega
  -- An exchange that has surrendered counts for nothing.
  | surrender x hp hsurrender =>
    left
    have hload := load_setPhase (q := .spent) h.distinct hp
    change _ = _ + 0 at hload
    dsimp only
    omega
  | @ending e p disposal tail x hp hending =>
    left
    have hs : disposal.1.SlotAccount := h.disposal hending
    have hp' : disposal.1.phase? x = some p := (hending.phase?_disposal x).trans hp
    -- What the exchange counted for is at most idle now.
    have htally := hs.tally_finish hp' hending.hasSlot (engaged ·.phase) fun _ _ => rfl
    have hsame : disposal.1.tally (engaged ·.phase) = s.tally (engaged ·.phase) :=
      tally_congr hending.disposal_same.1
    have hidle := hending.disposal_idle_le
    dsimp only at htally ⊢
    rw [load_eq, load_eq, (hs.finish_pool hp' hending.hasSlot).1]
    omega

/-! ## Peak -/

/-- The largest number of slots in use at a time, from a state on during a history. -/
def peak (s : Station) : List Occurrence → Nat
  | [] => s.pool.stats.leased
  | o :: rest => max s.pool.stats.leased ((s.occur o).1.peak rest)

/-- The peak is at least what is leased at the beginning. -/
theorem leased_le_peak (s : Station) (os : List Occurrence) : s.pool.stats.leased ≤ s.peak os := by
  cases os with
  | nil => exact Nat.le_refl _
  | cons o rest => exact Nat.le_max_left _ _

/-- The peak is bounded by the size of the pool. -/
theorem SlotAccount.peak_le (h : s.SlotAccount) (os : List Occurrence) :
    s.peak os ≤ s.target.poolSize := by
  induction os generalizing s with
  | nil => exact h.leased_eq.trans_le h.holders_le
  | cons o rest ih =>
    have hrest := ih (h.occur o)
    rw [(occur_target s o).1] at hrest
    exact Nat.max_le.mpr ⟨h.leased_eq.trans_le h.holders_le, hrest⟩

theorem load_occur (h : s.SlotAccount) (o : Occurrence) :
    (s.occur o).1.load ≤ s.load ∨ (s.occur o).1.load ≤ (s.occur o).1.holders := by
  cases o with
  | event e => exact load_transition h (step_transition s e)
  | delay duration => exact .inl (Nat.le_refl _)

/-- The load after a history is bounded by the load before it and the peak of the history. -/
theorem load_history (h : s.SlotAccount) (os : List Occurrence) :
    (s.history os).1.load ≤ max s.load (s.peak os) := by
  induction os generalizing s with
  | nil => exact Nat.le_max_left _ _
  | cons o rest ih =>
    have hrest := ih (h.occur o)
    have hleased := leased_le_peak (s.occur o).1 rest
    rw [(h.occur o).leased_eq] at hleased
    simp only [history_cons, peak]
    -- Either the load was there before, or the slots in use just now allow for it.
    rcases load_occur h o with hkeep | hdial
    · omega
    · omega

/-! ## Exchanges one after the other -/

/-- Whether a lease is asked for. -/
def asksForLease : Occurrence → Bool
  | .event (.request _ _) => true
  | _ => false

/-- Whether every request of a history comes when no other exchange is in progress. -/
def isSequential (s : Station) : List Occurrence → Bool
  | [] => true
  | o :: rest => (!asksForLease o || s.exchanges.isEmpty) && (s.occur o).1.isSequential rest

theorem length_exchanges_finish (s : Station) (x : Nat) :
    (s.finish x).1.exchanges.length ≤ s.exchanges.length := by
  have herase : (s.erase x).exchanges.length ≤ s.exchanges.length := List.length_filter_le _ _
  rcases s.finish_shape x with ⟨slots, heq⟩ | ⟨slots, y, timeout, heq⟩
  · rw [heq]
    exact herase
  · rw [heq]
    exact (List.length_map _).trans_le herase

/-- Only a request adds an exchange. -/
theorem length_exchanges_transition (ht : Transition s e o) :
    o.1.exchanges.length ≤ s.exchanges.length ∨
      ∃ x timeout, e = .request x timeout ∧ o.1.exchanges.length = s.exchanges.length + 1 := by
  cases ht with
  | accept x timeout | enqueue x timeout => exact .inr ⟨x, timeout, rfl, List.length_append⟩
  | still | dead | refuse | lose | elapse => exact .inl (Nat.le_refl _)
  | withdraw | overdue => exact .inl (List.length_filter_le _ _)
  | reuse | dial | pass | lossOf | gain | surrender => exact .inl (List.length_map _).le
  | ending x hp hending =>
    left
    apply (length_exchanges_finish _ x).trans
    rw [hending.disposal_same.1]

theorem holders_le_length (s : Station) : s.holders ≤ s.exchanges.length := by
  have hone : ∀ e ∈ s.exchanges, e.phase.hasSlot.toNat ≤ 1 := fun e _ => Bool.toNat_le _
  calc s.holders ≤ s.tally fun _ => 1 := tally_le_tally hone
    _ = s.exchanges.length := by simp [tally]

/-- While exchanges come one after the other, no two slots are in use at a time. -/
theorem peak_le_one {os : List Occurrence} (h : s.SlotAccount) (hlength : s.exchanges.length ≤ 1)
    (hseq : s.isSequential os = true) : s.peak os ≤ 1 := by
  have hleased : s.pool.stats.leased ≤ 1 := by
    rw [h.leased_eq]
    exact (holders_le_length s).trans hlength
  -- By induction on the history: at most one exchange is there at every moment.
  induction os generalizing s with
  | nil => exact hleased
  | cons o rest ih =>
    obtain ⟨halone, hrest⟩ := Bool.and_eq_true_iff.mp hseq
    -- A request comes only to a station without exchanges, and leaves it with one.
    have hnext : (s.occur o).1.exchanges.length ≤ 1 := by
      cases o with
      | delay duration => exact hlength
      | event e =>
        obtain hle | ⟨x, timeout, rfl, heq⟩ := length_exchanges_transition (step_transition s e)
        · exact hle.trans hlength
        · have hempty : s.exchanges = [] := by simpa [asksForLease] using halone
          apply heq.trans_le
          rw [hempty]
          exact Nat.le_refl _
    have hnextLeased : (s.occur o).1.pool.stats.leased ≤ 1 := by
      rw [(h.occur o).leased_eq]
      exact (holders_le_length _).trans hnext
    exact Nat.max_le.mpr ⟨hleased, ih (h.occur o) hnext hrest hnextLeased⟩

/-! ## The bound -/

/-- **The bound of a pool.** After every history the connections that lie idle, those that exchanges
own and those that are being made are together no more than the slots that were in use at a time,
hence no more than the pool has. Exchanges that come one after the other have one connection at
most. -/
theorem pool_bounded (target : Target) (policy : Policy) (os : List Occurrence) :
    ((ofTarget target policy).history os).1.pool.idle.length +
        ((ofTarget target policy).history os).1.ownerCount +
        ((ofTarget target policy).history os).1.diallers ≤ (ofTarget target policy).peak os ∧
      (ofTarget target policy).peak os ≤ target.poolSize ∧
      ((ofTarget target policy).isSequential os = true →
        ((ofTarget target policy).history os).1.pool.stats.openCount ≤ 1) := by
  have hslots := SlotAccount.ofTarget target policy
  -- A new station has no load, so only the peak counts.
  have hload : ((ofTarget target policy).history os).1.load ≤ (ofTarget target policy).peak os := by
    refine (load_history hslots os).trans (Nat.max_le.mpr ⟨?_, Nat.le_refl _⟩)
    exact Nat.zero_le _
  refine ⟨hload, hslots.peak_le os, fun hseq => ?_⟩
  have hpeak := peak_le_one hslots (Nat.zero_le _) hseq
  have hopen := (accounts_ofTarget target policy os).2.openCount
  simp only [load] at hload
  simp only [Pool.stats]
  omega

/-- Two exchanges one after the other: the second has its connection, the first one's is closed. -/
theorem pool_bounded_in_turn :
    let os : List Occurrence := [.event (.request 0 1000), .event (.proceed 0),
      .event (.connected 0), .event (.release 0), .delay 5, .event (.request 1 1000),
      .event (.proceed 1), .event (.connected 1)]
    (ofTarget sampleTarget samplePolicy).isSequential os = true ∧
      ((ofTarget sampleTarget samplePolicy).history os).1.pool.created = 2 ∧
      ((ofTarget sampleTarget samplePolicy).history os).1.pool.stats.openCount ≤ 1 := by
  intro os
  have hseq : (ofTarget sampleTarget samplePolicy).isSequential os = true := by decide
  exact ⟨hseq, by decide, (pool_bounded sampleTarget samplePolicy os).2.2 hseq⟩

end ObliviousRelay.Gateway.Station
