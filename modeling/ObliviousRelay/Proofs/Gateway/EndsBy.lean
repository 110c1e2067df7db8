import ObliviousRelay.Proofs.Gateway.Attempts
import ObliviousRelay.Proofs.Gateway.Timely
import ObliviousRelay.Proofs.Gateway.Turns
import ObliviousRelay.Proofs.Lookup

/-!
# How long an exchange can last

An exchange waits for a slot as long as its target lets it, and from the grant on it has a deadline.
So the moment at which it will be over is known when it begins, whatever it goes through until then:
the end of its wait and the time that is allowed from then on.

- `Station.EndsBy`: what a station has noted of an exchange lets it last until a moment at most.
- `endsBy_of_request`: the moment when a lease is asked for.
- `EndsBy.events` and `EndsBy.elapse`: neither events nor time move it.
- `EndsBy.timer_le`: the exchange is due by then, whatever it waits for.
- `rank`: how often it can go on by the clock alone; `rank_of_ticks`.
-/

namespace ObliviousRelay.Gateway.Station

open Timing (Deadline)

variable {s : Station} {x y timeout last : Nat} {p q : Phase} {e : Event} {d : Deadline}
  {told : Chronicle} {os : List Occurrence} {effects : List Effect}

/-! ## The wait of an exchange -/

/-- Nobody else has a place in the queue. -/
theorem phase?_of_waiter (hs : s.SlotAccount) {w : Waiter Nat} (hw : w ∈ s.pool.slots.waiting) :
    ∃ timeout, s.phase? w.holder = some (.queued timeout) := by
  have hmem : w.holder ∈ s.queuedIds := hs.queue ▸ List.mem_map_of_mem hw
  obtain ⟨p, hp, hslot⟩ := hs.distinct.hasSlot_of_mem_queuedIds hmem
  cases p with
  | queued timeout => exact ⟨timeout, hp⟩
  | _ => cases hslot

/-- Everybody has one place in the queue. -/
theorem timer?_of_waiter (hs : s.SlotAccount) {w : Waiter Nat} (hw : w ∈ s.pool.slots.waiting)
    (timeout : Nat) : s.timer? ⟨w.holder, .queued timeout⟩ = some w.expires := by
  have hnodup : (s.pool.slots.waiting.map (·.holder)).Nodup := by
    rw [hs.queue]
    exact hs.distinct.sublist (List.filter_sublist.map _)
  have hfind : s.pool.slots.waiting.find? (·.holder = w.holder) = some w := find?_of_nodup hnodup hw
  simp [timer?, hfind]

/-- Time passes only where nobody goes on at once, and up to the moments of all exchanges. -/
theorem of_mayElapse {moment : Nat} (hmay : s.mayElapse moment = true) (hp : s.phase? x = some p) :
    (∀ timeout, p ≠ .granted timeout) ∧
      ∀ due, s.timer? ⟨x, p⟩ = some due → moment ≤ due := by
  obtain ⟨e, he, rfl⟩ := Option.map_eq_some_iff.mp hp
  obtain rfl : e.id = x := by simpa using List.find?_some he
  have hall := List.all_eq_true.mp hmay e (List.mem_of_find?_eq_some he)
  refine ⟨fun timeout hgranted => by simp [hgranted] at hall, fun due hdue => ?_⟩
  split at hall
  · cases hall
  · rw [show s.timer? e = some due from hdue] at hall
    simpa using hall

/-! ## The end of an exchange -/

/-- What a station has noted of an exchange lets it last until a moment at most: the time that it is
allowed from the end of its wait on, from now on where it has just been given its slot, or else its
deadline. -/
structure EndsBy (s : Station) (x last : Nat) : Prop where
  waits : ∀ w ∈ s.pool.slots.waiting, w.holder = x →
    s.now ≤ w.expires ∧ w.expires + s.target.requestTimeout ≤ last
  granted : ∀ timeout, s.phase? x = some (.granted timeout) → s.now + timeout ≤ last
  term : ∀ p d, s.phase? x = some p → p.term? = some d → d.moment ≤ last

/-- **The end of an exchange is known when its lease is asked for.** -/
theorem endsBy_of_request (hs : s.SlotAccount) (hx : s.phase? x = none) :
    (s.step (.request x s.target.requestTimeout)).1.EndsBy x
      (s.now + s.target.queueWait + s.target.requestTimeout) := by
  have hnow : (s.step (.request x s.target.requestTimeout)).1.now = s.now :=
    (step_transition s _).now (by simp)
  have htarget := (step_transition s (.request x s.target.requestTimeout)).target.1
  have hcourse := (step_transition s (.request x s.target.requestTimeout)).course (x := x) hs rfl
  rw [hx] at hcourse
  generalize hout : (s.step (.request x s.target.requestTimeout)).2 = effects at hcourse
  refine ⟨fun w hw hwx => ?_, fun timeout hp => ?_, fun p d hp hd => ?_⟩
  · -- Nobody of this number has waited before.
    rw [hnow, htarget]
    rcases (hs.slotMove (.event _)).waiter_cases hw with hold | ⟨-, -, -, hexpires, -⟩
    · obtain ⟨timeout, hqueued⟩ := phase?_of_waiter hs hold
      rw [hwx, hx] at hqueued
      cases hqueued
    · -- It waits from now on, for at most the target's wait.
      rw [hexpires]
      exact ⟨Nat.le_add_right _ _, Nat.le_refl _⟩
  · -- Granted at once, it has all of the target's time.
    rw [hnow]
    rw [hp] at hcourse
    cases hcourse with
    | accept => omega
  · -- It has no deadline yet.
    rw [hp] at hcourse
    cases hcourse <;> cases hd

namespace EndsBy

/-- **An event does not move the end of an exchange**, for it is not asked for twice. -/
theorem step (h : s.EndsBy x last) (hon : s.OnTime s.target.requestTimeout told)
    (he : ∀ duration, e ≠ .elapse duration) (hrequest : ∀ timeout, e ≠ .request x timeout) :
    (s.step e).1.EndsBy x last := by
  have hnow : (s.step e).1.now = s.now := (step_transition s e).now he
  have htarget := (step_transition s e).target.1
  have hfate := step_fate hon.slots e x
  refine ⟨fun w hw hwx => ?_, fun timeout hq => ?_, fun q d hq hd => ?_⟩
  -- What waits after the step waited before, as nobody has asked since.
  · rw [hnow, htarget]
    rcases (hon.slots.slotMove (.event e)).waiter_cases hw with hold | ⟨⟨timeout, hasked⟩, -⟩
    · exact h.waits w hold hwx
    · exact absurd (hwx ▸ Occurrence.event.inj hasked) (hrequest timeout)
  -- Granted since before, or granted now.
  · rw [hnow]
    rw [hq] at hfate
    generalize hp : s.phase? x = p, (s.step e).2 = effects at hfate
    cases hfate with
    | aside => exact h.granted timeout hp
    | granted =>
      -- The wait was not over, and the time that is allowed is the target's.
      obtain ⟨w, hw, hwx, -⟩ := exists_waiter hon.slots hp
      obtain ⟨hahead, hlast⟩ := h.waits w hw hwx
      have hallowed := (hon.dated x _ hp).allowed timeout (.inl rfl)
      omega
    -- Its own step granted it nothing: only a request is granted at once.
    | own hcourse =>
      cases p with
      | none =>
        cases hcourse with
        | accept => exact absurd rfl (hrequest timeout)
      | some p =>
        rcases hcourse.term.2 with heq | heq | ⟨d, -, hd⟩ | ⟨_, -, hd⟩
        · exact h.granted timeout (hp.trans (congrArg some heq.symm))
        · cases heq
        · cases hd
        · cases hd
  -- A deadline is kept as long as it lasts.
  · rw [hq] at hfate
    generalize hp : s.phase? x = p, (s.step e).2 = effects at hfate
    cases hfate with
    | aside => exact h.term q d hp hd
    | granted => cases hd
    | own hcourse =>
      cases p with
      | none => cases hcourse <;> first | exact h.term q d hp hd | cases hd
      | some p =>
        rcases hcourse.term.2 with heq | heq | ⟨d', hd', hsame⟩ | ⟨timeout, heq, hnew⟩
        · -- It stays in its phase.
          exact h.term p d hp (heq ▸ hd)
        · -- It has no deadline any more.
          rw [heq] at hd
          cases hd
        · -- It goes on with the same deadline.
          obtain rfl := Option.some.inj (hsame.symm.trans hd)
          exact h.term p _ hp hd'
        · -- The deadline starts now.
          obtain rfl := Option.some.inj (hnew.symm.trans hd)
          exact h.granted timeout (hp.trans (congrArg some heq))

/-- Nor do several events that take no time. -/
theorem events (h : s.EndsBy x last) (hon : s.OnTime s.target.requestTimeout told)
    (hos : TakesNoTime s.target.requestTimeout os)
    (hrequest : ∀ timeout, .event (.request x timeout) ∉ os) : (s.history os).1.EndsBy x last := by
  -- By induction on the events, which take no time.
  induction os generalizing s told with
  | nil => exact h
  | cons o rest ih =>
    obtain ⟨e, rfl, he, -⟩ := hos o List.mem_cons_self
    have hone : TakesNoTime s.target.requestTimeout [.event e] := fun o ho =>
      hos o (List.mem_singleton.mp ho ▸ List.mem_cons_self)
    have htarget : (s.occur (.event e)).1.target = s.target := (occur_target s (.event e)).1
    have hstep := h.step hon he fun timeout heq => hrequest timeout (by simp [heq])
    have hlater := (hon.events hone).1
    rw [history_cons]
    refine ih hstep (htarget ▸ hlater) (htarget ▸ fun o ho => hos o (List.mem_cons_of_mem _ ho))
      fun timeout hmem => hrequest timeout (List.mem_cons_of_mem _ hmem)

/-- **Nor does time that passes.** -/
theorem elapse (h : s.EndsBy x last) (hs : s.SlotAccount) (duration : Nat) :
    (s.step (.elapse duration)).1.EndsBy x last := by
  simp only [Station.step]
  split
  · next hmay =>
    refine ⟨fun w hw hwx => ?_, fun timeout hp => ?_, h.term⟩
    · -- Time does not pass the end of a wait.
      obtain ⟨timeout, hqueued⟩ := phase?_of_waiter hs hw
      have hahead := (of_mayElapse hmay hqueued).2 _ (timer?_of_waiter hs hw timeout)
      exact ⟨hahead, (h.waits w hw hwx).2⟩
    · exact absurd rfl ((of_mayElapse hmay hp).1 timeout)
  · exact h

/-- **An exchange is due by its end**, and not behind, whatever it waits for. -/
theorem timer_le (h : s.EndsBy x last) (hon : s.OnTime s.target.requestTimeout told)
    (hp : s.phase? x = some p) {moment : Nat} (htimer : s.timer? ⟨x, p⟩ = some moment) :
    s.now ≤ moment ∧ moment ≤ last := by
  have htimely := hon.timely x p hp
  have hterm := h.term p
  cases p with
  | granted | held | spent => cases htimer
  -- In the queue, the wait ends.
  | queued timeout =>
    obtain ⟨w, hw, hwx, heq⟩ := exists_waiter hon.slots hp
    obtain rfl := Option.some.inj (heq.symm.trans htimer)
    obtain ⟨hahead, hlast⟩ := h.waits w hw hwx
    exact ⟨hahead, (Nat.le_add_right _ _).trans hlast⟩
  -- On its connection, the deadline strikes.
  | readying c t | offering c t | reading c t =>
    obtain rfl := Option.some.inj htimer
    exact ⟨htimely, hterm _ hp rfl⟩
  -- While it dials, the attempt or the pause ends, and neither outlasts the deadline.
  | dialling d purpose dial =>
    have hlast := hterm d hp rfl
    obtain ⟨attempt, stage⟩ := dial
    cases stage with
    | connecting bound stops =>
      obtain rfl := Option.some.inj htimer
      cases stops with
      | limit => exact ⟨htimely.1, htimely.2.le.trans hlast⟩
      | deadline => exact ⟨htimely.1, htimely.2.le.trans hlast⟩
    | pausing ending inTime =>
      obtain rfl := Option.some.inj htimer
      exact ⟨htimely.1, htimely.2.1.trans hlast⟩

/-- **An exchange in progress is not past its end.** -/
theorem now_le (h : s.EndsBy x last) (hon : s.OnTime s.target.requestTimeout told)
    (hp : s.phase? x = some p) (hbusy : isAtRest (some p) = false) : s.now ≤ last := by
  cases p with
  -- Who holds a lease or has spent it is not in progress.
  | held | spent => cases hbusy
  | granted timeout => exact (Nat.le_add_right _ _).trans (h.granted timeout hp)
  | queued timeout =>
    obtain ⟨w, -, -, htimer⟩ := exists_waiter hon.slots hp
    obtain ⟨hahead, hlast⟩ := h.timer_le hon hp htimer
    exact hahead.trans hlast
  | dialling | readying | offering | reading =>
    exact ((hon.timely x _ hp).le_deadline rfl).trans (h.term _ _ hp rfl)

end EndsBy

/-! ## By the clock alone -/

/-- How often an exchange can still go on by the clock alone, with so many attempts for a connection:
it is given its slot, makes one attempt after the other, and pauses between them. -/
def rank (most : Nat) : Phase → Nat
  | .granted _ => 2 * most + 3
  | .dialling _ _ ⟨attempt, .connecting _ _⟩ => 2 * (most + 1 - attempt)
  | .dialling _ _ ⟨attempt, .pausing _ _⟩ => 2 * (most - attempt) + 1
  | _ => 0

/-- The clock is about to tell an exchange something: it goes on with its slot at once, or its moment
has come. -/
inductive Ticks (s : Station) (x : Nat) : Phase → Event → Prop where
  | slot (timeout : Nat) : Ticks s x (.granted timeout) (.proceed x)
  | due {p : Phase} (moment draw : Nat) (htimer : s.timer? ⟨x, p⟩ = some moment)
      (hnow : moment ≤ s.now) : Ticks s x p (.expire x draw)

/-- **By the clock an exchange comes nearer to its end**, or has lost its connection for good. -/
theorem rank_of_ticks (hs : s.SlotAccount) (hp : s.phase? x = some p) (hticks : Ticks s x p e)
    (hq : (s.step e).1.phase? x = some q) :
    q = .spent ∨ rank s.policy.retry.maxAttempts q < rank s.policy.retry.maxAttempts p := by
  cases hticks with
  -- With its slot, it takes a connection from the pool or makes the first attempt.
  | slot timeout =>
    rcases phase?_proceed hp with ⟨c, hheld⟩ | hdialling
    · obtain rfl := Option.some.inj (hheld.symm.trans hq)
      exact .inr (by simp [rank])
    · obtain rfl := Option.some.inj (hdialling.symm.trans hq)
      exact .inr (by simp only [rank]; omega)
  -- Otherwise a timer strikes: the lease is spent, a pause or an attempt begins.
  | due moment draw htimer hnow =>
    have hafter := afterTimer_of_due hs hp htimer hnow draw
    rw [hq] at hafter
    cases hafter with
    | spends => exact .inl rfl
    | pauses | retries => exact .inr (by simp only [rank]; omega)

end ObliviousRelay.Gateway.Station
