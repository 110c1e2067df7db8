import ObliviousRelay.Proofs.Gateway.SlotConservation

/-!
# Attempts to connect

What an exchange that makes a connection comes to when its attempt fails or succeeds, and when its
moment has come.

- `Station.step_expire_of_due`: who is due goes on or is stopped; `step_expire_of_limit`: an attempt that
  its own limit stops has failed like one that is refused.
- `AfterFailure` lists what follows a failed attempt, `afterFailure_of_refused`.
- `AfterTimer` lists what the clock alone makes of an exchange, `afterTimer_of_due`.
- `Purpose.remains` is where an exchange stands that has given up.
-/

namespace ObliviousRelay

/-- Another attempt follows only as long as the policy allows one. -/
theorem Timing.Retry.lt_of_nextDelay {r : Timing.Retry} {k delay : Nat}
    (h : r.nextDelay k = some delay) : k < r.maxAttempts := by
  by_contra hlast
  rw [nextDelay, if_pos (Nat.not_lt.mp hlast)] at h
  cases h

namespace Gateway

open Timing (Deadline Expired)

/-- Where an exchange stands that has given up making a connection. -/
def Purpose.remains : Purpose → Option Phase
  | .lease => none
  | .offer _ | .offerAgain _ => some .spent

namespace Station

variable {s : Station} {x : Nat} {p : Phase} {d : Deadline} {purpose : Purpose} {dial : Dial}
  {attempt bound ending : Nat} {stops : Expired}

/-! ## The moment of an exchange -/

/-- Whoever waits is in the queue, until a moment. -/
theorem exists_waiter {timeout : Nat} (hs : s.SlotAccount) (hp : s.phase? x = some (.queued timeout)) :
    ∃ w ∈ s.pool.slots.waiting, w.holder = x ∧
      s.timer? ⟨x, .queued timeout⟩ = some w.expires := by
  have hmem : x ∈ s.pool.slots.waiting.map (·.holder) := hs.queue ▸ mem_queuedIds_of_phase? hp rfl
  obtain ⟨w, hw, hholder⟩ := List.mem_map.mp hmem
  have hfind : (s.pool.slots.waiting.find? (·.holder = x)).isSome = true :=
    List.find?_isSome.mpr ⟨w, hw, by simpa using hholder⟩
  obtain ⟨u, hu⟩ := Option.isSome_iff_exists.mp hfind
  exact ⟨u, List.mem_of_find?_eq_some hu, by simpa using List.find?_some hu, by simp [timer?, hu]⟩

/-- An exchange in progress goes on at once with its slot, or waits for a moment. -/
theorem granted_or_timer (hs : s.SlotAccount) (hp : s.phase? x = some p)
    (hbusy : isAtRest (some p) = false) :
    (∃ timeout, p = .granted timeout) ∨ ∃ moment, s.timer? ⟨x, p⟩ = some moment := by
  cases p with
  -- An exchange that holds a lease, or has spent it, waits for nothing.
  | held | spent => cases hbusy
  | granted timeout => exact .inl ⟨timeout, rfl⟩
  -- A queued exchange has its place, and its wait ends there.
  | queued timeout =>
    obtain ⟨w, -, -, htimer⟩ := exists_waiter hs hp
    exact .inr ⟨w.expires, htimer⟩
  -- One that makes a connection is bounded in an attempt and in a pause alike.
  | dialling d purpose dial =>
    obtain ⟨attempt, stage⟩ := dial
    cases stage <;> exact .inr ⟨_, rfl⟩
  | readying | offering | reading => exact .inr ⟨_, rfl⟩

/-- Whoever has a slot is told its moment by its phase alone. -/
theorem timer?_of_hasSlot (hslot : p.hasSlot = true) : s.timer? ⟨x, p⟩ = p.timer? := by
  cases p with
  | queued timeout => cases hslot
  | _ => rfl

/-- An exchange is due once the clock has come to its moment. -/
theorem isDue_of_timer? {moment : Nat} (htimer : s.timer? ⟨x, p⟩ = some moment) :
    s.isDue ⟨x, p⟩ = decide (moment ≤ s.now) := by
  rw [isDue, htimer]

/-- **An exchange whose moment has come** goes on or is stopped. -/
theorem step_expire_of_due {moment : Nat} (hp : s.phase? x = some p)
    (htimer : s.timer? ⟨x, p⟩ = some moment) (hnow : moment ≤ s.now) (draw : Nat) :
    s.step (.expire x draw) = s.expire x p draw := by
  have hdue := isDue_of_timer? htimer
  rw [step_eq_act (x := x) rfl, hp]
  simp only [isWord, Bool.false_and, Bool.false_eq_true, if_false, act, hdue, hnow, decide_true,
    if_true]

/-- The timer of an exchange with a slot ends it where it is due. -/
theorem step_expire {moment : Nat} (hp : s.phase? x = some p) (hslot : p.hasSlot = true)
    (htimer : p.timer? = some moment) (hnow : moment ≤ s.now) (draw : Nat) :
    s.step (.expire x draw) = s.expire x p draw :=
  step_expire_of_due hp ((timer?_of_hasSlot hslot).trans htimer) hnow draw

/-- **An attempt that its own limit stops has failed** like one that is refused. -/
theorem step_expire_of_limit
    (hp : s.phase? x = some (.dialling d purpose ⟨attempt, .connecting bound .limit⟩))
    (hnow : bound ≤ s.now) (draw : Nat) :
    s.step (.expire x draw) = s.step (.refused x "connect timed out" draw) := by
  rw [step_expire hp rfl rfl hnow, step_eq_act (x := x) rfl, hp]
  rfl

/-! ## To give up -/

/-- **Who gives up making a connection** has no lease, or one that has lost its connection. -/
theorem phase?_giveUp (h : s.SlotAccount) (hp : s.phase? x = some (.dialling d purpose dial))
    (f : Failure) : (s.giveUp x purpose f).1.phase? x = purpose.remains := by
  cases purpose with
  | lease => exact h.phase?_finish_self hp rfl
  | offer | offerAgain => exact phase?_setPhase_self hp

/-- Giving up tells of one failure, and of the slot if it is given back. -/
theorem effects_giveUp (s : Station) (x : Nat) (purpose : Purpose) (f : Failure) :
    ∃ before, (s.giveUp x purpose f).2 = before ++ [.failed x f] ∧
      (before = [] ∨ before = (s.finish x).2) := by
  cases purpose with
  | lease => exact ⟨(s.finish x).2, rfl, .inr rfl⟩
  | offer | offerAgain => exact ⟨[], rfl, .inl rfl⟩

/-! ## Failed attempts -/

/-- What follows a failed attempt: where the exchange stands then, and what is seen of it. -/
inductive AfterFailure (s : Station) (x : Nat) (d : Deadline) (purpose : Purpose) (attempt : Nat)
    (error : String) (draw : Nat) : Option Phase → List Effect → Prop where
  | pauses (delay length : Nat) (hdelay : s.policy.retry.nextDelay attempt = some delay)
      (hlength : Timing.Backoff.withDraw? delay draw = some length) :
      AfterFailure s x d purpose attempt error draw
        (some (.dialling d purpose ⟨attempt, .pausing (d.run s.now (some length)).moment
          ((d.run s.now (some length)).result matches .ok ())⟩))
        [.attempted .error, .logged (.retrying s.target.name attempt error)]
  | breaksDown (delay : Nat) (hdelay : s.policy.retry.nextDelay attempt = some delay)
      (hlength : Timing.Backoff.withDraw? delay draw = none) :
      AfterFailure s x d purpose attempt error draw none
        ([.attempted .error] ++ ((s.finish x).2 ++ [.overflowed x]))
  | givesUp (hnone : s.policy.retry.nextDelay attempt = none) :
      AfterFailure s x d purpose attempt error draw purpose.remains
        ([.attempted .error, .logged (.unreachable s.target.name attempt error)] ++
          (s.giveUp x purpose (.gatewayUnreachable error)).2)

/-- **A refused attempt is followed** by a pause, or by the end. -/
theorem afterFailure_of_refused (h : s.SlotAccount)
    (hp : s.phase? x = some (.dialling d purpose ⟨attempt, .connecting bound stops⟩))
    (error : String) (draw : Nat) :
    AfterFailure s x d purpose attempt error draw
      ((s.step (.refused x error draw)).1.phase? x) (s.step (.refused x error draw)).2 := by
  have hstep : s.step (.refused x error draw) = s.attemptFailed x d purpose attempt error draw := by
    rw [step_eq_act (x := x) rfl, hp]
    rfl
  rw [hstep, attemptFailed]
  split
  · -- Another attempt is left: there is a pause, or the delay has no room for its random part.
    next delay hdelay =>
    split
    · next length hlength =>
      rw [phase?_setPhase_self hp]
      exact .pauses delay length hdelay hlength
    · next hlength =>
      simp only [andThen_eq, breakDown, h.phase?_finish_self hp rfl]
      exact .breaksDown delay hdelay hlength
  · -- No attempt is left.
    next hnone =>
    simp only [andThen_eq, phase?_giveUp h hp]
    exact .givesUp hnone

/-- What follows a failed attempt, of which there are so many: the exchange is over, or it pauses
before another attempt. -/
theorem phase?_of_refused (hs : s.SlotAccount)
    (hp : s.phase? x = some (.dialling d purpose ⟨attempt, .connecting bound stops⟩))
    (error : String) (draw : Nat) :
    isAtRest ((s.step (.refused x error draw)).1.phase? x) = true ∨
      (attempt < s.policy.retry.maxAttempts ∧ ∃ ending inTime,
        (s.step (.refused x error draw)).1.phase? x =
          some (.dialling d purpose ⟨attempt, .pausing ending inTime⟩)) := by
  have hafter := afterFailure_of_refused hs hp error draw
  generalize (s.step (.refused x error draw)).1.phase? x = q,
    (s.step (.refused x error draw)).2 = effects at hafter ⊢
  cases hafter with
  | pauses delay length hdelay => exact .inr ⟨Timing.Retry.lt_of_nextDelay hdelay, _, _, rfl⟩
  | breaksDown => exact .inl rfl
  | givesUp => exact .inl (by cases purpose <;> rfl)

/-- A pause that ends in time is followed by the next attempt. -/
theorem phase?_of_pause
    (hp : s.phase? x = some (.dialling d purpose ⟨attempt, .pausing ending true⟩))
    (hnow : ending ≤ s.now) (draw : Nat) : ∃ bound stops,
      (s.step (.expire x draw)).1.phase? x =
        some (.dialling d purpose ⟨attempt + 1, .connecting bound stops⟩) := by
  rw [step_expire hp rfl rfl hnow]
  exact ⟨_, _, phase?_setPhase_self hp⟩

/-! ## By the clock -/

/-- What the clock makes of an exchange, where there are so many attempts: it is over, or has lost its
connection, or an attempt is followed by a pause, or a pause by an attempt. -/
inductive AfterTimer (most : Nat) : Phase → Option Phase → Prop where
  | ends (p : Phase) : AfterTimer most p none
  | spends {p : Phase} (hp : p ≠ .spent) : AfterTimer most p (some .spent)
  | pauses {attempt : Nat} (hmore : attempt < most) (d : Deadline) (purpose : Purpose)
      (bound ending : Nat) (inTime : Bool) :
      AfterTimer most (.dialling d purpose ⟨attempt, .connecting bound .limit⟩)
        (some (.dialling d purpose ⟨attempt, .pausing ending inTime⟩))
  | retries (d : Deadline) (purpose : Purpose) (attempt ending bound : Nat) (stops : Expired) :
      AfterTimer most (.dialling d purpose ⟨attempt, .pausing ending true⟩)
        (some (.dialling d purpose ⟨attempt + 1, .connecting bound stops⟩))

/-- Who gives up making a connection is over, or has lost its connection. -/
theorem AfterTimer.remains (most : Nat) (d : Deadline) (purpose : Purpose) (dial : Dial) :
    AfterTimer most (.dialling d purpose dial) purpose.remains := by
  cases purpose with
  | lease => exact .ends _
  | offer | offerAgain => exact .spends (by simp)

/-- **Whose moment has come goes on, or is over.** -/
theorem afterTimer_of_due (hs : s.SlotAccount) {moment : Nat} (hp : s.phase? x = some p)
    (htimer : s.timer? ⟨x, p⟩ = some moment) (hnow : moment ≤ s.now) (draw : Nat) :
    AfterTimer s.policy.retry.maxAttempts p ((s.step (.expire x draw)).1.phase? x) := by
  have hstep := step_expire_of_due hp htimer hnow draw
  cases p with
  | granted | held | spent => cases htimer
  -- The wait in the queue is over, and the exchange is gone.
  | queued timeout =>
    have hgone : (s.step (.expire x draw)).1.phase? x = none := by
      rw [hstep]
      exact phase?_erase_self
    rw [hgone]
    exact .ends _
  -- The time of the exchange is over: its connection is closed and its lease is spent.
  | readying c t | offering c t | reading c t =>
    have hspent : (s.step (.expire x draw)).1.phase? x = some .spent := by
      rw [hstep]
      exact phase?_setPhase_self (s := (s.close c).1) hp
    rw [hspent]
    exact .spends (by simp)
  | dialling d purpose dial =>
    have hgivesUp : ∀ f, AfterTimer s.policy.retry.maxAttempts (.dialling d purpose dial)
        ((s.giveUp x purpose f).1.phase? x) := by
      intro f
      rw [phase?_giveUp hs hp]
      exact .remains _ d purpose dial
    obtain ⟨attempt, stage⟩ := dial
    cases stage with
    | connecting bound stops =>
      cases stops with
      -- The deadline strikes during an attempt.
      | deadline =>
        rw [hstep]
        exact hgivesUp _
      -- The limit of the attempt strikes, and the attempt counts as refused.
      | limit =>
        rw [step_expire_of_limit hp (Option.some.inj htimer ▸ hnow) draw]
        have hafter := afterFailure_of_refused hs hp "connect timed out" draw
        generalize (s.step (.refused x "connect timed out" draw)).1.phase? x = after,
          (s.step (.refused x "connect timed out" draw)).2 = effects at hafter ⊢
        cases hafter with
        | pauses delay length hdelay =>
          exact .pauses (Timing.Retry.lt_of_nextDelay hdelay) d purpose bound _ _
        | breaksDown => exact .ends _
        | givesUp => exact .remains _ d purpose _
    | pausing ending inTime =>
      cases inTime with
      -- The deadline strikes during a pause.
      | false =>
        rw [hstep]
        exact hgivesUp _
      -- The pause is over in time, and another attempt begins.
      | true =>
        obtain ⟨bound, stops, hnext⟩ := phase?_of_pause hp (Option.some.inj htimer ▸ hnow) draw
        rw [hnext]
        exact .retries d purpose attempt ending bound stops

end Station

end Gateway

end ObliviousRelay
