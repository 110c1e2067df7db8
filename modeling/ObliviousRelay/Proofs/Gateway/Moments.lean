import ObliviousRelay.Proofs.Gateway.Attempts
import ObliviousRelay.Proofs.Gateway.Timely
import ObliviousRelay.Proofs.Gateway.Turns

/-!
# Moments that are near

Every moment that a station has noted, for a deadline, a bound, a pause or a wait, lies at most one
span of time ahead of its clock, and the number of an attempt is one that the policy allows. It does
not matter for this whether anybody is told of its moment in time.

- `Phase.IsNear`: what a phase has noted; `Course.near` for the exchange of an event.
- `Station.Near`: what a station has noted; `Near.history` keeps it.
-/

namespace ObliviousRelay

namespace Timing.Deadline

variable {d : Deadline} {now : Nat}

/-- A capped bound does not lie behind the deadline. -/
theorem cap_le (d : Deadline) (now limit : Nat) : (d.cap now limit).1 ≤ d.moment := by
  unfold cap
  split
  · next hlimit => exact hlimit.le
  · exact Nat.le_refl _

/-- Bounded work has ended by the deadline, or at once. -/
theorem moment_run_le (d : Deadline) (now : Nat) (work : Option Nat) :
    (d.run now work).moment ≤ max now d.moment := by
  unfold run endingBy
  split
  -- The work is done in time, or never.
  · next hends =>
    cases work with
    | none => exact Nat.le_max_left _ _
    | some w =>
      simp only [endsBy, Bool.or_eq_true, beq_iff_eq, decide_eq_true_eq] at hends
      rcases hends with rfl | hends
      · exact Nat.le_max_left _ _
      · exact hends.trans (Nat.le_max_right _ _)
  · -- It is cut short, and the clock is at the later of now and the deadline.
    exact Nat.le_refl _

end Timing.Deadline

namespace Gateway

open Timing (Deadline Expired)

/-! ## What a phase has noted -/

/-- The number of an attempt is one that is allowed; before a pause ends, the next one is, too. -/
def Dial.IsCounted (most : Nat) : Dial → Prop
  | ⟨attempt, .connecting _ _⟩ => attempt ≤ most
  | ⟨attempt, .pausing _ _⟩ => attempt < most

/-- The times that a phase has noted are at most a span, its moments at most a span ahead, and its
attempts are counted. -/
structure Phase.IsNear (span most now : Nat) (p : Phase) : Prop where
  allowed : ∀ timeout, p = .queued timeout ∨ p = .granted timeout → timeout ≤ span
  term : ∀ d, p.term? = some d → d.moment ≤ now + span
  timer : ∀ moment, p.timer? = some moment → moment ≤ now + span
  counted : ∀ d purpose dial, p = .dialling d purpose dial → dial.IsCounted most

namespace Phase

variable {p : Phase} {span most now : Nat} {d : Deadline} {purpose : Purpose} {attempt : Nat}

/-- What is near stays so while time passes. -/
theorem IsNear.later {after : Nat} (h : p.IsNear span most now) (hlater : now ≤ after) :
    p.IsNear span most after where
  allowed := h.allowed
  term d hd := (h.term d hd).trans (Nat.add_le_add_right hlater span)
  timer moment hmoment := (h.timer moment hmoment).trans (Nat.add_le_add_right hlater span)
  counted := h.counted

/-- A wait is near if its time is within the span. -/
theorem isNear_waiting {timeout : Nat} (hp : p = .queued timeout ∨ p = .granted timeout)
    (h : timeout ≤ span) : p.IsNear span most now := by
  rcases hp with rfl | rfl <;>
    exact ⟨by simp [h], by simp [term?], by simp [timer?, deadline?], by simp⟩

/-- A spent lease has no moment. -/
theorem isNear_spent : Phase.spent.IsNear span most now :=
  ⟨by simp, by simp [term?], by simp [timer?, deadline?], by simp⟩

/-- With a connection an exchange has no moment but its deadline. -/
theorem isNear_of_connection {c : Connection} (hc : p.connection? = some c)
    (h : ∀ d, p.term? = some d → d.moment ≤ now + span) : p.IsNear span most now := by
  -- What such a phase waits for is its deadline, if it waits at all.
  have htimer : ∀ moment, p.timer? = some moment → ∃ d, p.term? = some d ∧ d.moment = moment := by
    cases p with
    | held => simp [timer?, deadline?]
    | readying | offering | reading => simp [timer?, deadline?, term?]
    | queued | granted | dialling | spent => cases hc
  refine ⟨?_, h, fun moment hmoment => ?_, ?_⟩
  · rintro timeout (rfl | rfl) <;> cases hc
  · obtain ⟨d, hd, rfl⟩ := htimer moment hmoment
    exact h d hd
  · rintro d purpose dial rfl
    cases hc

/-- An attempt is bounded by the earlier of its limit and the deadline, and both are near. -/
theorem isNear_connecting (h : d.moment ≤ now + span) (hattempt : attempt ≤ most) (limit : Nat) :
    (Phase.dialling d purpose ⟨attempt, .connecting (d.cap now limit).1 (d.cap now limit).2⟩).IsNear
      span most now where
  allowed := by simp
  term d' hd' := by
    obtain rfl := Option.some.inj hd'
    exact h
  timer moment hmoment := by
    obtain rfl := Option.some.inj hmoment
    exact (d.cap_le now limit).trans h
  counted d' purpose' dial heq := by
    obtain ⟨rfl, rfl, rfl⟩ := Phase.dialling.inj heq
    exact hattempt

/-- A pause ends with its length or with the deadline, and both are near. -/
theorem isNear_pausing (h : d.moment ≤ now + span) (hattempt : attempt < most) (length : Nat)
    (inTime : Bool) :
    (Phase.dialling d purpose ⟨attempt, .pausing (d.run now (some length)).moment inTime⟩).IsNear
      span most now where
  allowed := by simp
  term d' hd' := by
    obtain rfl := Option.some.inj hd'
    exact h
  timer moment hmoment := by
    obtain rfl := Option.some.inj hmoment
    exact (d.moment_run_le now (some length)).trans (max_le (Nat.le_add_right _ _) h)
  counted d' purpose' dial heq := by
    obtain ⟨rfl, rfl, rfl⟩ := Phase.dialling.inj heq
    exact hattempt

end Phase

namespace Station

variable {s : Station} {x : Nat} {e : Event} {o : Occurrence} {effects : List Effect} {span : Nat}

/-- What is near at a station. -/
abbrev HasNear (s : Station) (span : Nat) (p : Option Phase) : Prop :=
  ∀ r, p = some r → r.IsNear span s.policy.retry.maxAttempts s.now

/-- A change of phase keeps what is near. -/
theorem Passage.near {p q : Phase} (h : Passage s x e p q effects) (hp : s.HasNear span (some p)) :
    s.HasNear span (some q) := by
  intro r hr
  obtain rfl := Option.some.inj hr
  have hnear := hp p rfl
  -- The phases with a connection keep their deadline.
  cases h with
  | send | offer | unsendable | answer | receive | complete =>
    exact Phase.isNear_of_connection rfl hnear.term
  | pause d purpose attempt bound delay length hfails hdelay =>
    exact Phase.isNear_pausing (hnear.term d rfl) (Timing.Retry.lt_of_nextDelay hdelay) _ _
  | retry d purpose attempt ending draw =>
    -- The pause was noted before an attempt that is allowed.
    exact Phase.isNear_connecting (hnear.term d rfl) (hnear.counted d purpose _ rfl) _

/-- Whoever loses its connection dials at once, or has nothing left to wait for. -/
theorem Loss.near {p q : Phase} {c : Connection} {before after : List Effect}
    (h : Loss s x e p c q before after) (hmost : 0 < s.policy.retry.maxAttempts)
    (hp : s.HasNear span (some p)) : s.HasNear span (some q) := by
  intro r hr
  obtain rfl := Option.some.inj hr
  cases h with
  | stale | returned => exact Phase.isNear_connecting ((hp _ rfl).term _ rfl) hmost _
  | discard => exact Phase.isNear_spent

/-- **What an event does to its exchange keeps what is near**, but for the deadline that starts when
it goes on with its slot. -/
theorem Course.near {p q : Option Phase} (h : Course s x e p q effects)
    (hmost : 0 < s.policy.retry.maxAttempts)
    (hproceed : ∀ timeout, e = .proceed x → p ≠ some (.granted timeout))
    (hrequest : ∀ timeout, e = .request x timeout → timeout ≤ span) (hp : s.HasNear span p) :
    s.HasNear span q := by
  intro r hr
  cases h with
  | still => exact hp r hr
  -- A spent lease waits for nothing.
  | dead | surrender =>
    obtain rfl := Option.some.inj hr
    exact Phase.isNear_spent
  -- Asked for now, with a time within the span.
  | accept timeout =>
    obtain rfl := Option.some.inj hr
    exact Phase.isNear_waiting (.inr rfl) (hrequest timeout rfl)
  | enqueue timeout =>
    obtain rfl := Option.some.inj hr
    exact Phase.isNear_waiting (.inl rfl) (hrequest timeout rfl)
  | refuse | withdraw | overdue | ending => cases hr
  -- With its slot it goes on under a new deadline, which is not covered here.
  | reuse timeout | dial timeout => exact absurd rfl (hproceed timeout rfl)
  | pass hpass => exact hpass.near hp r hr
  | loss hloss => exact hloss.near hmost hp r hr
  | gain d purpose attempt bound stops hgain =>
    obtain rfl := Option.some.inj hr
    refine Phase.isNear_of_connection hgain.connection?_eq fun d' hd' => ?_
    -- The connection was made under the deadline that it has.
    obtain rfl : d' = d := by cases hgain <;> exact (Option.some.inj hd').symm
    exact (hp _ rfl).term d' rfl

/-- An exchange that goes on with its slot notes a deadline that is near. -/
theorem near_proceed {timeout : Nat} (hp : s.phase? x = some (.granted timeout))
    (hmost : 0 < s.policy.retry.maxAttempts) (hspan : timeout ≤ span) :
    s.HasNear span ((s.step (.proceed x)).1.phase? x) := by
  intro r hr
  have hdeadline : (Deadline.after s.now timeout).moment ≤ s.now + span :=
    Nat.add_le_add_left hspan s.now
  rcases phase?_proceed hp with ⟨c, hheld⟩ | hdialling
  · obtain rfl := Option.some.inj (hheld.symm.trans hr)
    refine Phase.isNear_of_connection rfl fun d hd => ?_
    obtain rfl := Option.some.inj hd
    exact hdeadline
  · obtain rfl := Option.some.inj (hdialling.symm.trans hr)
    exact Phase.isNear_connecting hdeadline hmost _

/-! ## What a station has noted -/

/-- Everything that a station has noted is near: the phases of its exchanges, and the moments until
which others wait. -/
structure Near (span : Nat) (s : Station) : Prop where
  slots : s.SlotAccount
  most : 0 < s.policy.retry.maxAttempts
  wait : s.target.queueWait ≤ span
  phases : ∀ x, s.HasNear span (s.phase? x)
  queue : ∀ w ∈ s.pool.slots.waiting, w.expires ≤ s.now + span

/-- A station without exchanges is near. -/
theorem near_ofTarget {target : Target} {policy : Policy} (hmost : 0 < policy.retry.maxAttempts)
    (hwait : target.queueWait ≤ span) : (ofTarget target policy).Near span where
  slots := .ofTarget target policy
  most := hmost
  wait := hwait
  phases x p hp := by cases hp
  queue w hw := by cases hw

/-- Whoever asks for a lease allows at most a span of time for it. -/
def AsksWithin (span : Nat) (o : Occurrence) : Prop :=
  ∀ x timeout, o = .event (.request x timeout) → timeout ≤ span

/-- **An occurrence keeps everything near.** -/
theorem Near.occur (h : s.Near span) (ho : AsksWithin span o) : (s.occur o).1.Near span where
  slots := h.slots.occur o
  most := by
    rw [(occur_target s o).2]
    exact h.most
  wait := by
    rw [(occur_target s o).1]
    exact h.wait
  phases x q hq := by
    rw [(occur_target s o).2]
    have hlater := now_le_occur s o
    have hnear := h.phases x
    -- Its slot lets it begin, and its deadline is set now; otherwise each kind of move keeps what
    -- is near.
    by_cases hproceed : ∃ timeout, o = .event (.proceed x) ∧ s.phase? x = some (.granted timeout)
    · obtain ⟨timeout, rfl, hp⟩ := hproceed
      have hspan := (hnear _ hp).allowed timeout (.inr rfl)
      exact (near_proceed hp h.most hspan q hq).later hlater
    · have hfate := occur_fate h.slots o x
      generalize s.phase? x = p, (s.occur o).2 = effects at hfate hnear hproceed
      rw [hq] at hfate
      cases hfate with
      | aside => exact (hnear q rfl).later hlater
      | granted o timeout =>
        exact Phase.isNear_waiting (.inr rfl) ((hnear _ rfl).allowed timeout (.inl rfl))
      | own hcourse =>
        exact (hcourse.near h.most (fun timeout he hp => hproceed ⟨timeout, by rw [he], hp⟩)
          (fun timeout he => ho x timeout (by rw [he])) hnear q rfl).later hlater
  queue w hw := by
    have hlater := now_le_occur s o
    -- Who waits has waited before, or waits since now for the target's time.
    rcases (h.slots.slotMove o).waiter_cases hw with hold | ⟨-, -, -, hexpires, -⟩
    · exact (h.queue w hold).trans (Nat.add_le_add_right hlater span)
    · rw [hexpires]
      exact Nat.add_le_add hlater h.wait

/-- **Whatever happens to a station keeps everything near.** -/
theorem Near.history (h : s.Near span) {os : List Occurrence} (hos : ∀ o ∈ os, AsksWithin span o) :
    (s.history os).1.Near span := by
  induction os generalizing s with
  | nil => exact h
  | cons o rest ih =>
    obtain ⟨ho, hrest⟩ := List.forall_mem_cons.mp hos
    exact ih (h.occur ho) hrest

end Station

end Gateway

end ObliviousRelay
