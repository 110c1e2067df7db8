import ObliviousRelay.Proofs.Gateway.History

/-!
# The counters of a pool

A pool counts the connections that are open and those that were ever made, next to the list of those
that lie idle. The counters agree with each other and with what was brought about: a connection is
made just when an attempt to connect succeeds, and none is closed that was not open.

- `Tallies` is what one event does to both counters; `Transition.tallies`: every event does that.
- `completes`: whether an event is the success of an attempt that is under way.
- `Balanced` is what a whole history does to them; `balanced_history`.
-/

namespace ObliviousRelay.Gateway

/-! ## Counting effects -/

/-- How many connections were opened. -/
def openings (effects : List Effect) : Nat := effects.countP (· matches .opened _)

/-- How many connections were closed. -/
def closings (effects : List Effect) : Nat := effects.countP (· matches .closed _)

/-- How many attempts to connect succeeded. -/
def successes (effects : List Effect) : Nat := effects.countP (· matches .attempted .ok)

section Counting

variable (effects more : List Effect) (cs : List Connection)

/-- Openings add up. -/
@[simp] theorem openings_append : openings (effects ++ more) = openings effects + openings more :=
  List.countP_append

/-- So do closings. -/
@[simp] theorem closings_append : closings (effects ++ more) = closings effects + closings more :=
  List.countP_append

/-- So do successes. -/
@[simp] theorem successes_append :
    successes (effects ++ more) = successes effects + successes more :=
  List.countP_append

/-- Closing opens nothing. -/
@[simp] theorem openings_closed : openings (cs.map (.closed ·.serial)) = 0 := by
  simp [openings]

/-- It closes each connection once. -/
@[simp] theorem closings_closed : closings (cs.map (.closed ·.serial)) = cs.length := by
  simp [closings, List.countP_map, Function.comp_def]

/-- It is no success. -/
@[simp] theorem successes_closed : successes (cs.map (.closed ·.serial)) = 0 := by
  simp [successes]

end Counting

namespace Station

variable {s t : Station} {x : Nat} {p q : Phase} {e : Event} {o : Outcome}
  {effects more past future : List Effect}

/-- Effects that no counter of connections is about. -/
def Uncounted (effects : List Effect) : Prop :=
  openings effects = 0 ∧ closings effects = 0 ∧ successes effects = 0

/-- Two courses of effects that count for nothing count for nothing together. -/
theorem Uncounted.append (h : Uncounted effects) (hmore : Uncounted more) :
    Uncounted (effects ++ more) := by
  obtain ⟨hopen, hclose, hsuccess⟩ := h
  obtain ⟨hopen', hclose', hsuccess'⟩ := hmore
  refine ⟨?_, ?_, ?_⟩
  · rw [openings_append, hopen, hopen']
  · rw [closings_append, hclose, hclose']
  · rw [successes_append, hsuccess, hsuccess']

/-- Giving up opens and closes nothing and has no success. -/
theorem GivesUp.uncounted {dial : Dial} {f : Failure} (h : GivesUp s x e dial effects f) :
    Uncounted effects := by
  cases h <;> exact ⟨rfl, rfl, rfl⟩

/-- Neither does a passage. -/
theorem Passage.uncounted (h : Passage s x e p q effects) : Uncounted effects := by
  cases h <;> exact ⟨rfl, rfl, rfl⟩

/-- What a loss tells besides its closing does not count. -/
theorem Loss.uncounted {c : Connection} (h : Loss s x e p c q effects more) :
    Uncounted effects ∧ Uncounted more := by
  cases h <;> exact ⟨⟨rfl, rfl, rfl⟩, rfl, rfl, rfl⟩

/-- What a gain tells besides its opening and its success does not count. -/
theorem Gain.uncounted {c : Connection} {d : Timing.Deadline} {purpose : Purpose}
    (h : Gain s x c d purpose q effects) : Uncounted effects := by
  cases h <;> exact ⟨rfl, rfl, rfl⟩

/-- A surrender does not count. -/
theorem Surrender.uncounted {f : Failure} (h : Surrender s x e p effects f) :
    Uncounted effects := by
  obtain ⟨d, purpose, hpurpose, hgives⟩ := h
  exact hgives.uncounted

/-- Giving a slot back does not count. -/
theorem uncounted_finish (s : Station) (x : Nat) : Uncounted (s.finish x).2 := by
  rcases s.effects_finish x with heq | ⟨y, heq⟩ <;> rw [heq] <;> exact ⟨rfl, rfl, rfl⟩

/-- What is told after an ending does not count. -/
theorem Ending.uncounted {disposal : Outcome} (h : Ending s x e p disposal effects) :
    Uncounted effects := by
  cases h <;> exact ⟨rfl, rfl, rfl⟩

/-- To dispose of a connection opens nothing, and closes what is not put aside. -/
theorem Ending.counted_disposal {disposal : Outcome} (h : Ending s x e p disposal effects) :
    openings disposal.2 = 0 ∧ successes disposal.2 = 0 ∧
      closings disposal.2 + disposal.1.pool.idle.length =
        s.pool.idle.length + p.connection?.isSome.toNat := by
  cases h with
  -- A clean release closes its connection only if it is too old for the pool.
  | releaseClean c t hclean =>
    unfold putAside
    split
    · exact ⟨rfl, rfl, Nat.add_comm _ _⟩
    · exact ⟨rfl, rfl, Nat.zero_add _⟩
  | releaseUsed c t hused => exact ⟨rfl, rfl, Nat.add_comm _ _⟩
  | releaseSpent => exact ⟨rfl, rfl, Nat.zero_add _⟩
  | drop p hslot =>
    -- A dropped exchange closes its connection, if it has one.
    rw [closeOwn, closeAll_eq, openings_closed, successes_closed, closings_closed, Nat.add_comm]
    refine ⟨rfl, rfl, ?_⟩
    cases p.connection? <;> rfl
  | giveUp d hgives =>
    obtain ⟨hopen, hclose, hsuccess⟩ := hgives.uncounted
    exact ⟨hopen, hsuccess, by rw [hclose]; exact Nat.zero_add _⟩
  | breakDown => exact ⟨rfl, rfl, Nat.zero_add _⟩

/-! ## One event -/

/-- Whether an event is the success of an attempt to connect that is under way. -/
def completes (s : Station) : Event → Bool
  | .connected x => match s.phase? x with
    | some (.dialling _ _ ⟨_, .connecting _ _⟩) => true
    | _ => false
  | _ => false

/-- What one event does to the counters of a pool. What it closes was open before, and it opens
nothing unless an attempt succeeds by it. -/
structure Tallies (s : Station) (e : Event) (t : Station) (effects : List Effect) : Prop where
  created : t.pool.created = s.pool.created + openings effects
  openCount : t.pool.openCount + closings effects = s.pool.openCount + openings effects
  attempts : successes effects = openings effects
  covered : closings effects ≤ s.pool.openCount
  earned : openings effects = 0 ∨ s.completes e = true

/-- An event that opens nothing: it lowers the count by what it closes. -/
theorem Tallies.of_closing (hopenings : openings effects = 0) (hsuccesses : successes effects = 0)
    (hcreated : t.pool.created = s.pool.created)
    (hcount : t.pool.openCount + closings effects = s.pool.openCount) :
    Tallies s e t effects where
  created := by omega
  openCount := by omega
  attempts := by omega
  covered := by omega
  earned := .inl hopenings

/-- What does not count leaves the tallies, if the pool keeps its counters. -/
theorem Tallies.of_uncounted (h : Uncounted effects) (hcreated : t.pool.created = s.pool.created)
    (hcount : t.pool.openCount = s.pool.openCount) : Tallies s e t effects :=
  .of_closing h.1 h.2.2 hcreated (by rw [h.2.1, hcount, Nat.add_zero])

/-- The same of connections that are closed before anything else is seen. -/
theorem Tallies.of_closed (cs : List Connection) (after : List Effect) (h : Uncounted after)
    (hcreated : t.pool.created = s.pool.created)
    (hcount : t.pool.openCount + cs.length = s.pool.openCount) :
    Tallies s e t (cs.map (.closed ·.serial) ++ after) := by
  apply Tallies.of_closing
  · rw [openings_append, openings_closed, h.1]
  · rw [successes_append, successes_closed, h.2.2]
  · exact hcreated
  · rw [closings_append, closings_closed, h.2.1]
    exact hcount

/-- A connection that is lost had an owner, so it was counted as open. -/
theorem Loss.tallies {c : Connection} {before after : List Effect}
    (hloss : Loss s x e p c q before after) (h : s.ConnectionAccount effects)
    (hp : s.phase? x = some p) :
    Tallies s e ((s.close c).1.setPhase x q) (before ++ .closed c.serial :: after) := by
  obtain ⟨⟨hopen₁, hclose₁, hsuccess₁⟩, hopen₂, hclose₂, hsuccess₂⟩ := hloss.uncounted
  have hone := h.one_le_openCount hp
  -- The connection that is lost is one of those that are open.
  rw [hloss.connection?_eq.1] at hone
  change s.pool.idle.length + 1 ≤ s.pool.openCount at hone
  rw [← List.singleton_append]
  apply Tallies.of_closing
  · rw [openings_append, openings_append, hopen₁, hopen₂]
    rfl
  · rw [successes_append, successes_append, hsuccess₁, hsuccess₂]
    rfl
  · rfl
  · -- One closing, and one less is open.
    rw [closings_append, closings_append, hclose₁, hclose₂]
    show s.pool.openCount - 1 + (0 + (1 + 0)) = s.pool.openCount
    omega

/-- A connection that is made is the success of an attempt. -/
theorem Gain.tallies {d d' : Timing.Deadline} {purpose : Purpose} {attempt bound : Nat}
    {stops : Timing.Expired} (hgain : Gain s x s.opened.1 d' purpose q effects)
    (hp : s.phase? x = some (.dialling d purpose ⟨attempt, .connecting bound stops⟩)) :
    Tallies s (.connected x) (s.opened.2.1.setPhase x q) (s.opened.2.2 ++ effects) := by
  obtain ⟨hopenings, hclosings, hsuccesses⟩ := hgain.uncounted
  -- A gain is one opening and one success, and closes nothing.
  have hnew : openings s.opened.2.2 = 1 ∧ closings s.opened.2.2 = 0 ∧
      successes s.opened.2.2 = 1 := ⟨rfl, rfl, rfl⟩
  constructor
  · rw [openings_append, hopenings, hnew.1]
    rfl
  · rw [openings_append, closings_append, hopenings, hclosings, hnew.1, hnew.2.1]
    rfl
  · rw [openings_append, successes_append, hopenings, hsuccesses, hnew.1, hnew.2.2]
  · rw [closings_append, hclosings, hnew.2.1]
    exact Nat.zero_le _
  · exact .inr (by rw [completes, hp])

/-- What an exchange that ends does not put aside is closed. -/
theorem Ending.tallies {disposal : Outcome} {tail : List Effect}
    (hending : Ending s x e p disposal tail) (h : s.ConnectionAccount effects)
    (hs : s.SlotAccount) (hp : s.phase? x = some p) :
    Tallies s e (disposal.1.finish x).1 (disposal.2 ++ (disposal.1.finish x).2 ++ tail) := by
  obtain ⟨hopen₁, hsuccess₁, hclose₁⟩ := hending.counted_disposal
  obtain ⟨hopen₂, hclose₂, hsuccess₂⟩ := uncounted_finish disposal.1 x
  obtain ⟨hopen₃, hclose₃, hsuccess₃⟩ := hending.uncounted
  have hopen := h.openCount
  have hp' : disposal.1.phase? x = some p := (hending.phase?_disposal x).trans hp
  obtain ⟨-, hcount, hcreated⟩ := (hs.disposal hending).finish_pool hp' hending.hasSlot
  have hdisposed := hending.disposal_openCount (h.one_le_openCount hp)
  apply Tallies.of_closing
  · -- An ending opens nothing.
    rw [openings_append, openings_append, hopen₁, hopen₂, hopen₃]
  · -- It has no success.
    rw [successes_append, successes_append, hsuccess₁, hsuccess₂, hsuccess₃]
  · exact hcreated.trans (hending.disposal_placed 0).2.2
  · -- What it closes is no longer open.
    rw [closings_append, closings_append, hclose₂, hclose₃, hcount]
    omega

/-- **Every transition changes the counters by what it brings about.** -/
theorem Transition.tallies (ht : Transition s e o) (h : s.ConnectionAccount effects)
    (hs : s.SlotAccount) : Tallies s e o.1 o.2 := by
  have hopen := h.openCount
  cases ht with
  | still | dead | refuse | lose | elapse => exact .of_uncounted ⟨rfl, rfl, rfl⟩ rfl rfl
  | accept | enqueue | withdraw | overdue => exact .of_uncounted ⟨rfl, rfl, rfl⟩ rfl rfl
  | reuse x timeout c unusable left hp hidle =>
    rw [hidle, List.length_append, List.length_cons] at hopen
    -- The unusable connections are among the idle ones, which are counted as open.
    refine .of_closed unusable [.leased x true] ⟨rfl, rfl, rfl⟩ rfl ?_
    show s.pool.openCount - unusable.length + unusable.length = s.pool.openCount
    omega
  | dial x timeout hp =>
    refine .of_closed s.pool.idle [.dialling x] ⟨rfl, rfl, rfl⟩ rfl ?_
    show s.pool.openCount - s.pool.idle.length + s.pool.idle.length = s.pool.openCount
    omega
  | pass x hp hpass => exact .of_uncounted hpass.uncounted rfl rfl
  | lossOf x hp hloss => exact hloss.tallies h hp
  | gain x d purpose attempt bound stops hp hgain => exact hgain.tallies hp
  | surrender x hp hsurrender =>
    exact .of_uncounted (hsurrender.uncounted.append ⟨rfl, rfl, rfl⟩) rfl rfl
  | ending x hp hending => exact hending.tallies h hs hp

/-- Whatever a connection is made for, it is opened when the attempt succeeds. -/
theorem openings_connected (s : Station) (x : Nat) (d : Timing.Deadline) (purpose : Purpose) :
    openings (s.connected x d purpose).2 = 1 := by
  cases purpose with
  | lease => rfl
  | offer o =>
    simp only [connected, offer, andThen_eq]
    split <;> rfl
  | offerAgain r => rfl

/-- **A connection is opened just when an attempt to connect succeeds.** -/
theorem openings_step (h : s.ConnectionAccount effects) (hs : s.SlotAccount) (e : Event) :
    openings (s.step e).2 = (s.completes e).toNat := by
  cases hdone : s.completes e with
  -- Nothing is completed, so that nothing can have been opened.
  | false =>
    rcases ((step_transition s e).tallies h hs).earned with hzero | hyes
    · exact hzero
    · rw [hdone] at hyes
      cases hyes
  | true =>
    -- The exchange of the event dials, so it goes on with its connection.
    cases e with
    | connected x =>
      simp only [completes] at hdone
      split at hdone
      · next d purpose attempt bound stops hp =>
        have hstep : s.step (.connected x) = s.connected x d purpose := by
          rw [step_eq_act (x := x) rfl, hp]
          rfl
        rw [hstep, openings_connected]
        rfl
      · cases hdone
    | _ => cases hdone

/-! ## Histories -/

/-- How many attempts to connect succeed in the course of some occurrences. -/
def completions (s : Station) : List Occurrence → Nat
  | [] => 0
  | .event e :: rest => (s.completes e).toNat + (s.step e).1.completions rest
  | .delay duration :: rest => (s.wait duration).completions rest

/-- The completions of two courses add up. -/
theorem completions_append (s : Station) (before after : List Occurrence) :
    s.completions (before ++ after) =
      s.completions before + (s.history before).1.completions after := by
  induction before generalizing s with
  | nil => exact (Nat.zero_add _).symm
  | cons o rest ih =>
    cases o with
    | event e => rw [List.cons_append, completions, ih, completions, Nat.add_assoc]; rfl
    | delay duration => rw [List.cons_append, completions, ih, completions]; rfl

/-- What some occurrences do to the counters of a pool. At no time have more connections been closed
than were open. -/
structure Balanced (s t : Station) (effects : List Effect) : Prop where
  created : t.pool.created = s.pool.created + openings effects
  openCount : t.pool.openCount + closings effects = s.pool.openCount + openings effects
  attempts : successes effects = openings effects
  covered : ∀ past future, effects = past ++ future →
    closings past ≤ s.pool.openCount + openings past

/-- Nothing has changed at the beginning. -/
theorem Balanced.refl (s : Station) : Balanced s s [] where
  created := rfl
  openCount := rfl
  attempts := rfl
  covered past future h := by
    obtain ⟨rfl, -⟩ := List.append_eq_nil_iff.mp h.symm
    exact Nat.zero_le _

/-- The tallies of a step are the balance of a course of one step. -/
theorem Tallies.balanced (h : Tallies s e t effects) : Balanced s t effects where
  created := h.created
  openCount := h.openCount
  attempts := h.attempts
  covered past future hsplit := by
    have hcovered := h.covered
    rw [hsplit, closings_append] at hcovered
    omega

/-- The balance of what comes first is carried over. -/
theorem Balanced.append {u : Station} (h : Balanced s t effects) (hmore : Balanced t u more) :
    Balanced s u (effects ++ more) where
  created := by
    rw [hmore.created, h.created, openings_append, Nat.add_assoc]
  openCount := by
    have hfirst := h.openCount
    have hsecond := hmore.openCount
    rw [closings_append, openings_append]
    omega
  attempts := by rw [successes_append, openings_append, h.attempts, hmore.attempts]
  covered past future hsplit := by
    -- Either the cut lies in the first part, or all of the first part is past.
    rcases List.append_eq_append_iff.mp hsplit with ⟨between, rfl, hrest⟩ | ⟨between, hrest, -⟩
    · have hlater := hmore.covered between future hrest
      have hfirst := h.openCount
      rw [closings_append, openings_append]
      omega
    · exact h.covered past between hrest

/-- **Over every history the counters are in balance**, and connections are made by the attempts that
succeed. -/
theorem balanced_history (h : s.ConnectionAccount effects) (hs : s.SlotAccount)
    (os : List Occurrence) : Balanced s (s.history os).1 (s.history os).2 ∧
      openings (s.history os).2 = s.completions os := by
  -- By induction on the history, whose first step is balanced by its tallies.
  induction os generalizing s effects with
  | nil => exact ⟨.refl s, rfl⟩
  | cons o rest ih =>
    obtain ⟨hlater, hopened⟩ := ih (h.occur hs o) (hs.occur o)
    rw [history_cons, openings_append, hopened]
    cases o with
    | event e =>
      have hfirst := ((step_transition s e).tallies h hs).balanced
      refine ⟨hfirst.append hlater, ?_⟩
      show openings (s.step e).2 + _ = _
      rw [openings_step h hs]
      rfl
    -- A delay moves the clock alone.
    | delay duration => exact ⟨⟨hlater.1, hlater.2, hlater.3, hlater.4⟩, Nat.zero_add _⟩

end Station

end ObliviousRelay.Gateway
