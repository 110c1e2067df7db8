import ObliviousRelay.Proofs.Gateway.Attempts
import ObliviousRelay.Proofs.Gateway.CleanPool

/-!
# How exchanges fail

Whatever an exchange fails with, it fails at one of a few places: it is told that nothing is free, its
message cannot be made a request, its connection is closed in the midst of a sending, or it gives up
making one.

- `Failing` has a case for each place, with the phase before and after and the failure.
- `Course.failing` and `failing_occur`: an exchange fails nowhere else.
-/

namespace ObliviousRelay.Gateway

/-- A message that cannot be made a request is the gateway's failure. -/
theorem exists_of_wireRequest_error {t : Target} {m : Outbound} {f : Failure}
    (h : wireRequest t m = .error f) : ∃ detail, f = .gatewayError detail := by
  unfold wireRequest at h
  split at h
  · exact ⟨_, (Except.error.inj h).symm⟩
  · cases h

namespace Station

open Timing (Deadline)

variable {s : Station} {x : Nat} {p : Phase} {b after : Option Phase} {e : Event} {f : Failure}
  {effects : List Effect}

/-- How an exchange fails: where it stands before and after, and what it fails with. -/
inductive Failing (s : Station) (x : Nat) :
    Event → Option Phase → Option Phase → Failure → Prop where
  | refuse (timeout : Nat) : Failing s x (.request x timeout) none none .gatewayBusy
  | overdue (timeout draw : Nat) :
      Failing s x (.expire x draw) (some (.queued timeout)) none .gatewayBusy
  | dead (m : Outbound) : Failing s x (.send x m) (some .spent) (some .spent)
      (.gatewayUnreachable "lease discarded")
  | unsendable {f : Failure} (c : Connection) (t : Terms) (m : Outbound)
      (hf : wireRequest s.target m = .error f) :
      Failing s x (.ready x) (some (.readying c t m)) (some (.held c t)) f
  /-- The same after the connection had to be made anew. -/
  | unsendableAnew {f : Failure} (d : Deadline) (m : Outbound) (dial : Dial) (c : Connection)
      (hf : wireRequest s.target m = .error f) :
      Failing s x (.connected x) (some (.dialling d (.offer m) dial))
        (some (.held c ⟨d, false, false⟩)) f
  | discard {e : Event} {p : Phase} {c : Connection} {f : Failure} (h : Discards s x e p c f) :
      Failing s x e (some p) (some .spent) f
  | giveUp {e : Event} {dial : Dial} {before : List Effect} {f : Failure} (d : Deadline)
      (purpose : Purpose) (h : GivesUp s x e dial before f) :
      Failing s x e (some (.dialling d purpose dial)) purpose.remains f

/-- What is told before giving up is no failure of the exchange. -/
theorem GivesUp.failed_not_mem {dial : Dial} {g : Failure} (h : GivesUp s x e dial effects g) :
    .failed x f ∉ effects := by
  cases h <;> simp

/-- To dispose of a connection fails nothing. -/
theorem Ending.failed_not_mem {disposal : Outcome} (h : Ending s x e p disposal effects) :
    .failed x f ∉ disposal.2 := by
  cases h with
  | releaseClean c t hclean =>
    unfold putAside
    split <;> simp [close]
  | drop p hslot =>
    rw [closeOwn, closeAll_eq]
    simp
  | giveUp d hgives => exact hgives.failed_not_mem
  | releaseUsed | releaseSpent | breakDown => simp [close]

/-- **An exchange fails in one of these ways.** -/
theorem Course.failing (h : Course s x e b after effects) (hmem : .failed x f ∈ effects) :
    Failing s x e b after f := by
  cases h with
  -- These moves tell of no failure.
  | still | accept | enqueue | withdraw => simp at hmem
  | reuse | dial => simp at hmem
  -- A send on a lease that has ended fails.
  | dead m =>
    obtain rfl : f = _ := by simpa using hmem
    exact .dead m
  -- No place is left in the queue.
  | refuse timeout =>
    obtain rfl : f = _ := by simpa using hmem
    exact .refuse timeout
  -- The wait was in vain.
  | overdue timeout draw =>
    obtain rfl : f = _ := by simpa using hmem
    exact .overdue timeout draw
  | pass hpass =>
    cases hpass with
    -- The request cannot be written, and no connection is touched.
    | unsendable c t m g hg =>
      obtain rfl : f = g := by simpa using hmem
      exact .unsendable c t m hg
    | _ => simp at hmem
  | loss hloss =>
    cases hloss with
    | stale | returned => simp at hmem
    -- The connection is discarded with the failure that is told.
    | discard hdiscards =>
      obtain rfl : f = _ := by simpa using hmem
      exact .discard hdiscards
  | gain d purpose attempt bound stops hgain =>
    cases hgain with
    -- The new connection was made for a request that cannot be written.
    | unsendable m g hg =>
      obtain rfl : f = g := by simpa [opened] using hmem
      exact .unsendableAnew d m _ _ hg
    | _ => simp [opened] at hmem
  -- It gives up while it still has its lease.
  | surrender hsurrender =>
    obtain ⟨d, purpose, hpurpose, hgives⟩ := hsurrender
    obtain rfl : f = _ := by simpa [hgives.failed_not_mem] using hmem
    have hremains : purpose.remains = some .spent := by
      cases purpose with
      | lease => exact absurd rfl hpurpose
      | offer | offerAgain => rfl
    rw [← hremains]
    exact .giveUp d purpose hgives
  | ending hending =>
    -- The failure is what is seen last of the end.
    rw [List.mem_append, List.mem_append] at hmem
    rcases hmem.resolve_left fun hbefore =>
      hbefore.elim hending.failed_not_mem (failed_not_mem_finish _ x x f) with htail
    cases hending with
    -- It gives up without having been leased.
    | giveUp d hgives =>
      obtain rfl : f = _ := by simpa using htail
      exact .giveUp d .lease hgives
    | _ => simp at htail

/-- A failure that is told of is one of an event. -/
theorem failing_occur (h : s.SlotAccount) (o : Occurrence) (hmem : .failed x f ∈ (s.occur o).2) :
    ∃ e, o = .event e ∧ Failing s x e (s.phase? x) ((s.occur o).1.phase? x) f := by
  obtain ⟨e, rfl, hcourse⟩ := course_of_effect h o hmem rfl (by simp)
  exact ⟨e, rfl, hcourse.failing hmem⟩

/-- **Only who finds no slot free is told that the gateway is busy.** -/
theorem Failing.of_busy (h : Failing s x e b after .gatewayBusy) : after = none ∧
    ((b = none ∧ ∃ timeout, e = .request x timeout) ∨
      ∃ timeout draw, b = some (.queued timeout) ∧ e = .expire x draw) := by
  generalize hf : Failure.gatewayBusy = f at h
  cases h with
  | refuse timeout => exact ⟨rfl, .inl ⟨rfl, timeout, rfl⟩⟩
  | overdue timeout draw => exact ⟨rfl, .inr ⟨timeout, draw, rfl, rfl⟩⟩
  | dead => cases hf
  | unsendable _ _ _ herror | unsendableAnew _ _ _ _ herror =>
    obtain ⟨detail, rfl⟩ := exists_of_wireRequest_error herror
    cases hf
  | discard hdiscards => cases hdiscards <;> cases hf
  | giveUp d purpose hgives => cases hgives <;> cases hf

end Station

end ObliviousRelay.Gateway
