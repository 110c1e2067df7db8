import ObliviousRelay.Proofs.Gateway.Content

/-!
# The search among idle connections

A search goes through the idle connections from the one pooled last on. It closes what it passes and
stops at the first connection that is fit for use; whatever lies behind stays as it is.

A connection is unfit for one of two reasons that have nothing to do with each other: it was closed,
which can happen to any of them, or it has lain idle for too long. The second reason goes by age, and
the list is ordered by age, so whatever lies behind a connection that is too old is too old as well.

- `search_eq_found_iff` and `found_eq_none_iff`: what a search comes to, for any list.
- `Station.takeIdle` is the search with the closing, `proceed_eq_takeIdle` its place in an exchange.
- `InOrder`: the idle connections are ordered by age, `InOrder.handle` and `InOrder.occur`.
- `idle_search`: all of it, for one search and for every run of putting aside and taking.
-/

namespace ObliviousRelay.Gateway

/-- A connection is fit for use when it is neither closed nor idle for the idle timeout or longer. -/
def Connection.IsFit (closed : Nat → Bool) (idleTimeout now : Nat) (c : Connection) : Prop :=
  closed c.serial = false ∧ ¬ idleTimeout ≤ now - c.idleSince

/-! ## One search -/

namespace Pool

variable {closed : Nat → Bool} {idleTimeout now : Nat} {c : Connection}
  {idle newer older : List Connection}

/-- The check tells what is fit. -/
theorem isUsable_iff : isUsable closed idleTimeout now c = true ↔
    c.IsFit closed idleTimeout now := by
  simp [isUsable, Connection.IsFit]

/-- A fit connection at the front is found. -/
theorem search_cons_of_isFit (hc : c.IsFit closed idleTimeout now) :
    search closed idleTimeout now (c :: older) = ⟨some c, older, []⟩ := by
  simp [search, isUsable_iff.mpr hc]

/-- An unfit connection is closed, and the search goes on behind it. -/
theorem search_cons_of_not_isFit (hc : ¬ c.IsFit closed idleTimeout now) :
    search closed idleTimeout now (c :: older) =
      { search closed idleTimeout now older with
        dropped := c :: (search closed idleTimeout now older).dropped } := by
  have hno : isUsable closed idleTimeout now c = false :=
    Bool.eq_false_iff.mpr (hc ∘ isUsable_iff.mp)
  simp [search, hno]

/-- The first fit one is found behind all that are not, which are dropped. -/
theorem search_append (hnewer : ∀ d ∈ newer, ¬ d.IsFit closed idleTimeout now)
    (hc : c.IsFit closed idleTimeout now) :
    search closed idleTimeout now (newer ++ c :: older) = ⟨some c, older, newer⟩ := by
  induction newer with
  | nil => exact search_cons_of_isFit hc
  | cons d rest ih =>
    obtain ⟨hd, hrest⟩ := List.forall_mem_cons.mp hnewer
    rw [List.cons_append, search_cons_of_not_isFit hd, ih hrest]

/-- Nothing fit: nothing is found, and all are dropped. -/
theorem search_of_unfit (h : ∀ d ∈ idle, ¬ d.IsFit closed idleTimeout now) :
    search closed idleTimeout now idle = ⟨none, [], idle⟩ := by
  induction idle with
  | nil => rfl
  | cons d rest ih =>
    obtain ⟨hd, hrest⟩ := List.forall_mem_cons.mp h
    rw [search_cons_of_not_isFit hd, ih hrest]

/-- In every list there is a fit connection that was pooled last, or there is none at all. -/
theorem exists_fit_or_unfit (closed : Nat → Bool) (idleTimeout now : Nat) (idle : List Connection) :
    (∃ newer c older, idle = newer ++ c :: older ∧ c.IsFit closed idleTimeout now ∧
      ∀ d ∈ newer, ¬ d.IsFit closed idleTimeout now) ∨
    ∀ d ∈ idle, ¬ d.IsFit closed idleTimeout now := by
  induction idle with
  | nil => exact .inr (by simp)
  | cons d rest ih =>
    by_cases hd : d.IsFit closed idleTimeout now
    · exact .inl ⟨[], d, rest, rfl, hd, by simp⟩
    · rcases ih with ⟨newer, c, older, rfl, hc, hnewer⟩ | hrest
      · exact .inl ⟨d :: newer, c, older, rfl, hc, List.forall_mem_cons.mpr ⟨hd, hnewer⟩⟩
      · exact .inr (List.forall_mem_cons.mpr ⟨hd, hrest⟩)

/-- **A search finds the fit connection that was pooled last**, leaves those pooled before it, and
closes those pooled after it. -/
theorem search_eq_found_iff : search closed idleTimeout now idle = ⟨some c, older, newer⟩ ↔
    idle = newer ++ c :: older ∧ c.IsFit closed idleTimeout now ∧
      ∀ d ∈ newer, ¬ d.IsFit closed idleTimeout now := by
  constructor
  -- The list has a first fit connection or none at all, and the search finds what there is.
  · intro h
    rcases exists_fit_or_unfit closed idleTimeout now idle with
      ⟨newer', c', older', rfl, hc, hnewer⟩ | hunfit
    · rw [search_append hnewer hc, Search.mk.injEq, Option.some.injEq] at h
      obtain ⟨rfl, rfl, rfl⟩ := h
      exact ⟨rfl, hc, hnewer⟩
    · rw [search_of_unfit hunfit] at h
      cases h
  · rintro ⟨rfl, hc, hnewer⟩
    exact search_append hnewer hc

/-- **A search finds nothing only where nothing is fit.** -/
theorem found_eq_none_iff : (search closed idleTimeout now idle).found = none ↔
    ∀ d ∈ idle, ¬ d.IsFit closed idleTimeout now := by
  constructor
  · intro h
    rcases exists_fit_or_unfit closed idleTimeout now idle with
      ⟨newer, c, older, rfl, hc, hnewer⟩ | hunfit
    · rw [search_append hnewer hc] at h
      cases h
    · exact hunfit
  · intro hunfit
    rw [search_of_unfit hunfit]

/-- What is found is fit. -/
theorem isFit_of_found (h : (search closed idleTimeout now idle).found = some c) :
    c.IsFit closed idleTimeout now :=
  (search_eq_found_iff.mp (show search closed idleTimeout now idle = ⟨some c, _, _⟩ by rw [← h])).2.1

end Pool

namespace Station

variable {s t : Station} {x timeout : Nat} {e : Event} {o : Outcome} {c : Connection}

/-! ## Taking and putting aside -/

/-- Takes an idle connection to use it again, if there is one. Those that are found unfit before it
are closed. -/
def takeIdle (s : Station) : Option Connection × Outcome :=
  let search := Pool.search s.isLost s.policy.idleTimeout s.now s.pool.idle
  (search.found,
    closeAll { s with pool := { s.pool with idle := search.left } } search.dropped)

/-- An exchange that goes on with its slot takes an idle connection, or dials. -/
theorem proceed_eq_takeIdle (s : Station) (x timeout : Nat) : s.proceed x timeout =
    s.takeIdle.2.andThen fun t => match s.takeIdle.1 with
      | some c => (t.setPhase x (.held c ⟨.after s.now timeout, true, false⟩), [.leased x true])
      | none => t.dial x (.after s.now timeout) .lease 1 := rfl

/-- Taking an idle connection is a search through the pool. -/
theorem takeIdle_eq (s : Station) : s.takeIdle =
    let search := Pool.search s.isLost s.policy.idleTimeout s.now s.pool.idle
    (search.found, s.withIdle search.left search.dropped.length,
      search.dropped.map (.closed ·.serial)) := by
  simp only [takeIdle, closeAll_eq]
  rfl

/-- With nothing fit, the pool is emptied. -/
theorem takeIdle_of_unfit
    (h : ∀ c ∈ s.pool.idle, ¬ c.IsFit s.isLost s.policy.idleTimeout s.now) :
    s.takeIdle = (none, s.withIdle [] s.pool.idle.length,
      s.pool.idle.map (.closed ·.serial)) := by
  rw [takeIdle_eq, Pool.search_of_unfit h]

/-- A granted exchange goes on by taking a connection or making one. -/
theorem step_proceed (hp : s.phase? x = some (.granted timeout)) :
    s.step (.proceed x) = s.proceed x timeout := by
  rw [step_eq_act (x := x) rfl, hp]
  rfl

/-! ## The order of age -/

/-- The idle connections were put aside one after the other, up to now. The one pooled last comes
first. -/
structure InOrder (s : Station) : Prop where
  sorted : s.pool.idle.Pairwise fun newer older => older.idleSince ≤ newer.idleSince
  past : ∀ c ∈ s.pool.idle, c.idleSince ≤ s.now

/-- An empty pool is in order. -/
theorem inOrder_ofTarget (target : Target) (policy : Policy) : (ofTarget target policy).InOrder :=
  ⟨List.Pairwise.nil, by simp [ofTarget, Pool.ofSize]⟩

/-- To take some away keeps the order. -/
theorem InOrder.of_sublist (h : s.InOrder) (hidle : t.pool.idle.Sublist s.pool.idle)
    (hnow : s.now ≤ t.now) : t.InOrder where
  sorted := h.sorted.sublist hidle
  past c hc := (h.past c (hidle.subset hc)).trans hnow

/-- To put one in front keeps the order, for none is younger than what is put aside now. -/
theorem InOrder.of_cons (h : s.InOrder)
    (hidle : t.pool.idle = { c with idleSince := s.now } :: s.pool.idle) (hnow : t.now = s.now) :
    t.InOrder where
  sorted := by
    rw [hidle]
    exact List.pairwise_cons.mpr ⟨h.past, h.sorted⟩
  past d hd := by
    rw [hidle] at hd
    rw [hnow]
    rcases List.mem_cons.mp hd with rfl | hd
    · exact Nat.le_refl _
    · exact h.past d hd

/-- A connection is put aside in front, with the latest moment. -/
theorem InOrder.putAside (h : s.InOrder) (c : Connection) : (s.putAside c).1.InOrder := by
  unfold Station.putAside
  split
  · exact h.of_sublist (List.Sublist.refl _) (Nat.le_refl _)
  · exact h.of_cons rfl rfl

/-- Taking one leaves the older ones in their order. -/
theorem InOrder.takeIdle (h : s.InOrder) : s.takeIdle.2.1.InOrder := by
  rw [takeIdle_eq]
  refine h.of_sublist ?_ (Nat.le_refl _)
  -- What is left is a part of the list, whatever the search comes to.
  show (Pool.search s.isLost s.policy.idleTimeout s.now s.pool.idle).left.Sublist s.pool.idle
  rcases Pool.exists_fit_or_unfit s.isLost s.policy.idleTimeout s.now s.pool.idle with
    ⟨newer, c, older, hidle, hc, hnewer⟩ | hunfit
  · rw [hidle, Pool.search_append hnewer hc]
    exact (List.sublist_cons_self c older).trans (List.sublist_append_right newer _)
  · rw [Pool.search_of_unfit hunfit]
    exact List.nil_sublist _

/-- **Behind a connection that is too old, all are too old.** -/
theorem InOrder.expired_of_expired (h : s.InOrder) {newer older : List Connection}
    (hidle : s.pool.idle = newer ++ c :: older) {idleTimeout : Nat}
    (hold : idleTimeout ≤ s.now - c.idleSince) :
    ∀ d ∈ older, idleTimeout ≤ s.now - d.idleSince := by
  intro d hd
  have hsorted := h.sorted
  rw [hidle] at hsorted
  have hle : d.idleSince ≤ c.idleSince :=
    List.rel_of_pairwise_cons (List.pairwise_append.mp hsorted).2.1 hd
  omega

/-- **Nothing is found behind a connection that is too old**, even where that one is still open. -/
theorem InOrder.not_found_of_expired (h : s.InOrder) {newer older : List Connection}
    (hidle : s.pool.idle = newer ++ c :: older)
    (hold : s.policy.idleTimeout ≤ s.now - c.idleSince) : ∀ d ∈ older, s.takeIdle.1 ≠ some d := by
  intro d hd hfound
  exact (Pool.isFit_of_found hfound).2 (h.expired_of_expired hidle hold d hd)

/-! ## Runs of putting aside and taking -/

/-- What is done with idle connections, and what happens to them meanwhile. -/
inductive Handling where
  | put (c : Connection)
  | take
  | lose (serial : Nat)
  | wait (duration : Nat)
  deriving DecidableEq

/-- The effect of one handling. -/
def handle (s : Station) : Handling → Outcome
  | .put c => s.putAside c
  | .take => s.takeIdle.2
  | .lose serial => s.step (.lose serial)
  | .wait duration => (s.wait duration, [])

/-- The effect of several handlings. -/
def handleAll (s : Station) : List Handling → Outcome
  | [] => (s, [])
  | h :: rest => (s.handle h).andThen (·.handleAll rest)

/-- Whatever is done with a pool keeps it in order. -/
theorem InOrder.handle (h : s.InOrder) (a : Handling) : (s.handle a).1.InOrder := by
  cases a with
  | put c => exact h.putAside c
  | take => exact h.takeIdle
  | lose serial => exact h.of_sublist (List.Sublist.refl _) (Nat.le_refl _)
  | wait duration => exact h.of_sublist (List.Sublist.refl _) (Nat.le_add_right _ _)

/-- The policy stays as it is. -/
theorem handle_policy (s : Station) (a : Handling) : (s.handle a).1.policy = s.policy := by
  cases a with
  | put c =>
    show (s.putAside c).1.policy = s.policy
    unfold putAside
    split <;> rfl
  | take =>
    show s.takeIdle.2.1.policy = s.policy
    rw [takeIdle_eq]
    rfl
  | lose | wait => rfl

/-- **The idle connections stay ordered by age**, however they are handled. -/
theorem InOrder.handleAll (h : s.InOrder) (as : List Handling) :
    (s.handleAll as).1.InOrder ∧ (s.handleAll as).1.policy = s.policy := by
  induction as generalizing s with
  | nil => exact ⟨h, rfl⟩
  | cons a rest ih =>
    obtain ⟨horder, hpolicy⟩ := ih (h.handle a)
    exact ⟨horder, hpolicy.trans (handle_policy s a)⟩

/-! ## Histories -/

/-- Giving a slot back leaves the idle connections. -/
theorem finish_idle (s : Station) (x : Nat) : (s.finish x).1.pool.idle = s.pool.idle := by
  rcases s.finish_shape x with ⟨slots, heq⟩ | ⟨slots, y, timeout, heq⟩ <;> rw [heq] <;> rfl

/-- A transition takes idle connections away, or puts one in front of them. -/
theorem Transition.idle (ht : Transition s e o) : o.1.pool.idle.Sublist s.pool.idle ∨
    ∃ c : Connection, o.1.pool.idle = { c with idleSince := s.now } :: s.pool.idle := by
  cases ht with
  -- A connection is taken from among the idle ones, with those before it.
  | @reuse x timeout c unusable left hp hidle =>
    left
    show left.Sublist s.pool.idle
    rw [hidle]
    exact (List.sublist_cons_self c left).trans (List.sublist_append_right unusable _)
  | dial => exact .inl (List.nil_sublist _)
  | @ending e p disposal tail x hp hending =>
    rw [finish_idle]
    cases hending with
    | releaseClean c t hclean =>
      unfold putAside
      -- A clean release puts its connection in front, if it is not too old.
      split
      · exact .inl (List.Sublist.refl _)
      · exact .inr ⟨c, rfl⟩
    | drop p hslot =>
      rw [closeOwn, closeAll_eq]
      exact .inl (List.Sublist.refl _)
    | _ => exact .inl (List.Sublist.refl _)
  | _ => exact .inl (List.Sublist.refl _)

/-- An occurrence keeps the pool in order. -/
theorem InOrder.occur (h : s.InOrder) (o : Occurrence) : (s.occur o).1.InOrder := by
  have hnow := now_le_occur s o
  cases o with
  | delay duration => exact h.of_sublist (List.Sublist.refl _) hnow
  | event e =>
    have ht := step_transition s e
    rcases ht.idle with hless | ⟨c, hmore⟩
    · exact h.of_sublist hless hnow
    · refine h.of_cons hmore (ht.now fun duration heq => ?_)
      -- No connection is put aside while time passes.
      subst heq
      have hsame : (s.step (.elapse duration)).1.pool.idle = s.pool.idle := by
        simp only [Station.step]
        split <;> rfl
      rw [hsame] at hmore
      exact List.cons_ne_self _ _ hmore.symm

/-- So does a history. -/
theorem InOrder.history (h : s.InOrder) (os : List Occurrence) : (s.history os).1.InOrder :=
  history_induction (P := fun r _ => r.InOrder) [] h (fun _ _ o h => h.occur o) os

/-- Only who goes on with a slot that it was granted gets a lease from the pool. -/
theorem Course.of_reused {p q : Option Phase} {effects : List Effect} (h : Course s x e p q effects)
    (hleased : .leased x true ∈ effects) :
    e = .proceed x ∧ ∃ timeout, p = some (.granted timeout) := by
  cases h with
  | reuse timeout => exact ⟨rfl, timeout, rfl⟩
  | still => exact absurd hleased List.not_mem_nil
  | dead | accept | enqueue | refuse | withdraw | overdue | dial => simp at hleased
  | pass hpass => cases hpass <;> simp at hleased
  | loss hloss => cases hloss <;> simp at hleased
  | gain d purpose attempt bound stops hgain => cases hgain <;> simp [opened] at hleased
  -- Leases from the pool are told of nowhere else.
  | surrender hsurrender =>
    obtain ⟨d, purpose, hpurpose, hgives⟩ := hsurrender
    cases hgives <;> simp at hleased
  | ending hending =>
    rcases hending.mem_about hleased rfl with heq | heq | ⟨g, heq⟩ | heq <;> cases heq

/-- Whoever goes on gets a lease at once just when the search has found a connection. -/
theorem leased_proceed_iff (hp : s.phase? x = some (.granted timeout)) :
    .leased x true ∈ (s.step (.proceed x)).2 ↔ ∃ c, s.takeIdle.1 = some c := by
  have hclosing : .leased x true ∉ s.takeIdle.2.2 := by
    rw [takeIdle_eq]
    simp
  rw [step_proceed hp, proceed_eq_takeIdle, andThen_eq, List.mem_append]
  cases s.takeIdle.1 with
  | some c => simp
  | none => simp [dial, hclosing]

/-- A lease comes from the pool only when a search has found its connection. -/
theorem exists_found_of_leased (h : s.SlotAccount) (o : Occurrence)
    (hleased : .leased x true ∈ (s.occur o).2) : ∃ c, s.takeIdle.1 = some c := by
  obtain ⟨e, rfl, hcourse⟩ := course_of_effect h o hleased rfl (by simp)
  obtain ⟨rfl, timeout, hp⟩ := hcourse.of_reused hleased
  exact (leased_proceed_iff hp).mp hleased

/-- Whoever goes on and gets no lease at once has found nothing fit. -/
theorem unfit_of_not_leased (hp : s.phase? x = some (.granted timeout))
    (hleased : .leased x true ∉ (s.step (.proceed x)).2) :
    ∀ c ∈ s.pool.idle, ¬ c.IsFit s.isLost s.policy.idleTimeout s.now :=
  Pool.found_eq_none_iff.mp (Option.eq_none_iff_forall_ne_some.mpr fun c hfound =>
    hleased ((leased_proceed_iff hp).mpr ⟨c, hfound⟩))

/-- Nothing is fit where no idle time is allowed. -/
theorem takeIdle_of_no_timeout (h : s.policy.idleTimeout = 0) : s.takeIdle.1 = none := by
  have hunfit : ∀ c ∈ s.pool.idle, ¬ c.IsFit s.isLost s.policy.idleTimeout s.now := by
    intro c _ hfit
    exact hfit.2 (h.trans_le (Nat.zero_le _))
  rw [takeIdle_of_unfit hunfit]

/-- With no idle time allowed, no history has a lease from the pool. -/
theorem not_leased_of_no_timeout (h : s.SlotAccount) (htimeout : s.policy.idleTimeout = 0)
    (os : List Occurrence) (x : Nat) : .leased x true ∉ (s.history os).2 := by
  refine (history_induction (P := fun r effects => r.SlotAccount ∧ r.policy.idleTimeout = 0 ∧
    .leased x true ∉ effects) [] ⟨h, htimeout, List.not_mem_nil⟩ ?_ os).2.2
  rintro r effects o ⟨hr, hzero, hnot⟩
  refine ⟨hr.occur o, (congrArg Policy.idleTimeout (occur_target r o).2).trans hzero, fun hmem => ?_⟩
  rcases List.mem_append.mp hmem with hmem | hmem
  · exact hnot hmem
  · obtain ⟨c, hfound⟩ := exists_found_of_leased hr o hmem
    rw [takeIdle_of_no_timeout hzero] at hfound
    cases hfound

/-! ## The search, and its runs -/

/-- **The search among idle connections.** In every list it finds the fit connection that was pooled
last, leaves those pooled before it and closes those pooled after it, which are unfit; it finds none
where none is fit, and then closes all. That is what happens to a station's idle connections.

However connections are put aside and taken while time passes and connections are lost, the list is
ordered by age. So what lies behind a connection that is too old is too old as well and is not found,
even where that connection is open; with no idle time allowed nothing is found. The same is true after
every history of a station, and with no idle time allowed no lease ever comes from the pool. -/
theorem idle_search :
    (∀ (closed : Nat → Bool) (idleTimeout now : Nat) (idle : List Connection),
      (∀ newer c older, Pool.search closed idleTimeout now idle = ⟨some c, older, newer⟩ ↔
        idle = newer ++ c :: older ∧ c.IsFit closed idleTimeout now ∧
          ∀ d ∈ newer, ¬ d.IsFit closed idleTimeout now) ∧
      ((Pool.search closed idleTimeout now idle).found = none ↔
        ∀ d ∈ idle, ¬ d.IsFit closed idleTimeout now) ∧
      ((Pool.search closed idleTimeout now idle).found = none →
        Pool.search closed idleTimeout now idle = ⟨none, [], idle⟩)) ∧
    (∀ s : Station,
      let search := Pool.search s.isLost s.policy.idleTimeout s.now s.pool.idle
      s.takeIdle = (search.found, s.withIdle search.left search.dropped.length,
        search.dropped.map (.closed ·.serial))) ∧
    ∀ (target : Target) (policy : Policy) (s : Station),
      ((∃ handlings, s = ((ofTarget target policy).handleAll handlings).1) ∨
        ∃ os, s = ((ofTarget target policy).history os).1) →
      s.pool.idle.Pairwise (fun newer older => older.idleSince ≤ newer.idleSince) ∧
      (∀ newer c older, s.pool.idle = newer ++ c :: older →
        policy.idleTimeout ≤ s.now - c.idleSince →
        ∀ d ∈ older, policy.idleTimeout ≤ s.now - d.idleSince ∧ s.takeIdle.1 ≠ some d) ∧
      (policy.idleTimeout = 0 → s.takeIdle.1 = none ∧
        ∀ x os, .leased x true ∉ ((ofTarget target policy).history os).2) := by
  refine ⟨fun closed idleTimeout now idle => ⟨fun newer c older => Pool.search_eq_found_iff,
    Pool.found_eq_none_iff, fun hnone => Pool.search_of_unfit (Pool.found_eq_none_iff.mp hnone)⟩,
    takeIdle_eq, fun target policy s hs => ?_⟩
  have hstart := inOrder_ofTarget target policy
  -- However the pool came about, it is in order, and its policy is the one it was given.
  obtain ⟨horder, rfl⟩ : s.InOrder ∧ s.policy = policy := by
    rcases hs with ⟨handlings, rfl⟩ | ⟨os, rfl⟩
    · exact hstart.handleAll handlings
    · exact ⟨hstart.history os, (history_target _ os).2⟩
  refine ⟨horder.sorted, fun newer c older hidle hold d hd =>
    ⟨horder.expired_of_expired hidle hold d hd, horder.not_found_of_expired hidle hold d hd⟩,
    fun hzero => ⟨takeIdle_of_no_timeout hzero, fun x os => ?_⟩⟩
  exact not_leased_of_no_timeout (SlotAccount.ofTarget target s.policy) hzero os x

/-- Three connections are put aside, 3000 apart. By the time of the search the oldest two are too old,
and the one pooled last is found; once that is lost, too, none is. -/
theorem idle_search_three :
    let put : List Handling := [.put ⟨0, sampleTarget.endpoint, 0⟩, .wait 3000,
      .put ⟨1, sampleTarget.endpoint, 0⟩, .wait 3000, .put ⟨2, sampleTarget.endpoint, 0⟩, .wait 3000]
    let s := ((ofTarget sampleTarget samplePolicy).handleAll put).1
    let t := ((ofTarget sampleTarget samplePolicy).handleAll (put ++ [.lose 2])).1
    s.takeIdle.1.map (·.serial) = some 2 ∧ t.takeIdle.1 = none ∧ t.takeIdle.2.1.pool.idle = [] ∧
    s.pool.idle.Pairwise (fun newer older => older.idleSince ≤ newer.idleSince) ∧
    ∀ d ∈ s.pool.idle.drop 2, 5000 ≤ s.now - d.idleSince ∧ s.takeIdle.1 ≠ some d := by
  intro put s t
  obtain ⟨-, -, hruns⟩ := idle_search
  obtain ⟨hsorted, hbehind, -⟩ := hruns sampleTarget samplePolicy s (.inl ⟨put, rfl⟩)
  refine ⟨by decide, by decide, by decide, hsorted, ?_⟩
  exact hbehind (s.pool.idle.take 1) ⟨1, sampleTarget.endpoint, 3000⟩ (s.pool.idle.drop 2)
    (by decide) (by decide)

end Station

end ObliviousRelay.Gateway
