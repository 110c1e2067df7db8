import ObliviousRelay.Forwarding.Engine

/-!
# The call protocol of an exchange

An exchange calls its transport in one of three ways: not at all, once for a lease that it does not
get, or for a lease, a sending on it and its release. Every operation is told by what it appends to
the calls made before, whatever these are; the exchange is then read off its text.

- `Engine.forward_eq` gives the calls and the result for each of the ways.
- `Engine.calls_follow_protocol` says which of them is taken when.
-/

namespace ObliviousRelay

open Gateway (Outbound Reply)

variable {Lease : Type}

/-! ## Operations -/

namespace Calling

variable {α β : Type}

/-- Writing a call down adds it to those made. -/
@[simp]
theorem run_note (c : Call) (past : List Call) :
    (note c).run.run past = (.ok (), past ++ [c]) := rfl

/-- A result that is settled makes no calls. -/
@[simp]
theorem run_settle (x : Except Failure α) (past : List Call) :
    (settle x).run.run past = (x, past) := rfl

/-- Observing a computation makes its calls and never fails. -/
@[simp]
theorem run_observe (x : Calling α) (past : List Call) :
    (observe x).run.run past = (.ok (x.run.run past).1, (x.run.run past).2) := rfl

/-- What follows a step is done only where the step did not fail. -/
theorem run_bind (x : Calling α) (f : α → Calling β) (past : List Call) :
    (x >>= f).run.run past =
      match x.run.run past with
      | (.ok a, calls) => (f a).run.run calls
      | (.error failure, calls) => (.error failure, calls) := by
  simp only [ExceptT.run_bind, StateT.run_bind]
  rcases x.run.run past with ⟨_ | _, _⟩ <;> rfl

end Calling

namespace Transport

variable (transport : Transport Lease) (past : List Call)

/-- Asking for a lease is a call, also where there is none to be had. -/
theorem run_acquire (t : Target) :
    (transport.acquire t).run.run past =
      ((transport.lease t).map (⟨t, ·⟩), past ++ [.lease t]) := by
  rw [acquire, Calling.run_bind, Calling.run_note]
  rcases h : transport.lease t with failure | lease <;> rfl

/-- Sending is a call, also where it fails. -/
theorem run_deliver (leased : Leased Lease) (o : Outbound) :
    (transport.deliver leased o).run.run past =
      (transport.send leased.lease o, past ++ [.send leased.target o]) := by
  rw [deliver, Calling.run_bind, Calling.run_note]
  rfl

/-- Giving a lease back is one call. -/
theorem run_giveBack (leased : Leased Lease) :
    (transport.giveBack leased).run.run past = (.ok (), past ++ [.release leased.target]) := rfl

end Transport

namespace Engine

variable (e : Engine) (transport : Transport Lease) (s : Selector) (m : Message)

/-! ## Preparation -/

/-- A target is prepared exactly where it is the one resolved and the message meets its policy. -/
theorem prepare_eq_ok (t : Target) :
    e.prepare s m = .ok t ↔ e.registry.resolve s = .ok t ∧ t.check m = .ok () := by
  unfold prepare
  rcases e.registry.resolve s with failure | u
  · simp
  · rcases hu : u.check m with failure | ⟨⟩ <;> simp only [hu, Except.ok.injEq, reduceCtorEq]
    · -- the one target resolved is refused, so there is none
      simp only [false_iff, not_and]
      rintro rfl
      simp [hu]
    · -- The target resolved accepts the message, so it is the one.
      simp only [iff_self_and]
      rintro rfl
      exact hu

/-- Nothing is prepared exactly where no target is resolved or the message misses its policy. -/
theorem prepare_eq_error :
    (∃ failure, e.prepare s m = .error failure) ↔
      (∃ failure, e.registry.resolve s = .error failure) ∨
        ∃ t failure, e.registry.resolve s = .ok t ∧ t.check m = .error failure := by
  unfold prepare
  rcases e.registry.resolve s with failure | u
  · simp
  · rcases hu : u.check m with failure | ⟨⟩ <;> simp [hu]

/-! ## The exchange -/

/-- An exchange that gets no lease ends there. -/
theorem run_execute_of_error {t : Target} {failure : Failure} (past : List Call)
    (h : transport.lease t = .error failure) :
    (e.execute transport t m).run.run past = (.error failure, past ++ [.lease t]) := by
  rw [execute, Calling.run_bind, Transport.run_acquire, h]
  rfl

/-- An exchange with a lease sends on it and gives it back, and is judged after that. -/
theorem run_execute_of_ok {t : Target} {lease : Lease} (past : List Call)
    (h : transport.lease t = .ok lease) :
    (e.execute transport t m).run.run past =
      ((transport.send lease (.ofMessage m)).bind e.interpret,
        past ++ [.lease t] ++ [.send t (.ofMessage m)] ++ [.release t]) := by
  rw [execute, Calling.run_bind, Transport.run_acquire, h]
  simp only [Except.map, Calling.run_bind, Calling.run_observe, Transport.run_deliver,
    Transport.run_giveBack, Calling.run_settle]
  -- the calls are made by now, however the sending went
  cases transport.send lease (.ofMessage m) <;> rfl

/-- The calls and the result of an exchange. -/
theorem forward_eq :
    e.forward transport s m =
      match e.prepare s m with
      | .error failure => ⟨.error failure, []⟩
      | .ok t => match transport.lease t with
        | .error failure => ⟨.error failure, [.lease t]⟩
        | .ok lease =>
          ⟨(transport.send lease (.ofMessage m)).bind e.interpret,
            [.lease t, .send t (.ofMessage m), .release t]⟩ := by
  simp only [forward, exchange, Calling.run_bind, Calling.run_settle]
  cases e.prepare s m with
  | error failure => rfl
  | ok t =>
    rcases h : transport.lease t with failure | lease
    · simp only [run_execute_of_error e transport m [] h, h, List.nil_append]
    · simp only [run_execute_of_ok e transport m [] h, h, List.nil_append, List.cons_append]

end Engine

/-! ## The protocol -/

namespace Call

/-- A call that sends. -/
def isSend : Call → Bool
  | send .. => true
  | _ => false

/-- A call that gives a lease of a target back. -/
def givesBack (t : Target) : Call → Bool
  | release u => u = t
  | _ => false

/-- A call that gets a lease of a target. -/
def gets (transport : Transport Lease) (t : Target) : Call → Bool
  | lease u => u = t && (transport.lease u).toBool
  | _ => false

end Call

namespace Engine

variable (e : Engine) (transport : Transport Lease) (s : Selector) (m : Message)

/-- What an exchange calls, and what it is that decides this. -/
inductive Calls : List Call → Prop
  | nothing {failure} (h : e.prepare s m = .error failure) : Calls []
  | asking {t failure} (h : e.prepare s m = .ok t) (hl : transport.lease t = .error failure) :
      Calls [.lease t]
  | sending {t lease} (h : e.prepare s m = .ok t) (hl : transport.lease t = .ok lease) :
      Calls [.lease t, .send t (.ofMessage m), .release t]

/-- What an exchange calls has one of the three shapes, and for the reason given there. -/
theorem calls_forward : Calls e transport s m (e.forward transport s m).calls := by
  rw [forward_eq]
  rcases hp : e.prepare s m with failure | t
  -- Nothing is asked of the transport: the message was refused before.
  · exact .nothing hp
  · rcases hl : transport.lease t with failure | lease
    -- A lease is asked for and not granted.
    · simpa only [hl] using .asking hp hl
    -- It is granted: the request is sent and the lease given back.
    · simpa only [hl] using .sending hp hl

namespace Calls

variable {e transport s m} {calls : List Call} (h : Calls e transport s m calls)

include h

/-- One of three sequences of calls is made. -/
theorem shape : calls = [] ∨ (∃ t, calls = [.lease t]) ∨
    ∃ t o, calls = [.lease t, .send t o, .release t] := by
  cases h with
  | nothing => exact .inl rfl
  | asking => exact .inr (.inl ⟨_, rfl⟩)
  | sending => exact .inr (.inr ⟨_, _, rfl⟩)

/-- No call is made just when the message is refused before. -/
theorem eq_nil_iff : calls = [] ↔ ∃ failure, e.prepare s m = .error failure := by
  cases h with
  | nothing h => simp [h]
  | asking h | sending h => simp [h]

/-- A lease is asked for and nothing else just when it is not granted. -/
theorem eq_asking_iff (t : Target) :
    calls = [.lease t] ↔
      e.prepare s m = .ok t ∧ ∃ failure, transport.lease t = .error failure := by
  cases h with
  -- Nothing was called, so that there is no target.
  | nothing h => simp [h]
  | asking h hl =>
    simp only [List.cons.injEq, Call.lease.injEq, and_true, h, Except.ok.injEq, iff_self_and]
    rintro rfl
    exact ⟨_, hl⟩
  -- More was called, and the lease was granted.
  | sending h hl =>
    simp only [List.cons.injEq, reduceCtorEq, and_false, h, Except.ok.injEq, false_iff, not_and]
    rintro rfl
    simp [hl]

/-- The request is sent, and the lease given back, just when it is granted. -/
theorem eq_sending_iff (t : Target) (o : Outbound) :
    calls = [.lease t, .send t o, .release t] ↔
      e.prepare s m = .ok t ∧ (∃ lease, transport.lease t = .ok lease) ∧ o = .ofMessage m := by
  cases h with
  | nothing h => simp [h]
  -- Less was called, as the lease was not granted.
  | asking h hl =>
    simp only [List.cons.injEq, reduceCtorEq, and_false, h, Except.ok.injEq, false_iff, not_and]
    rintro rfl
    simp [hl]
  | @sending u _ h hl =>
    simp only [List.cons.injEq, Call.lease.injEq, Call.send.injEq, Call.release.injEq, and_true, h,
      Except.ok.injEq]
    -- The three calls are about the same target and the same message.
    constructor
    · rintro ⟨rfl, ⟨-, rfl⟩, -⟩
      exact ⟨rfl, ⟨_, hl⟩, rfl⟩
    · rintro ⟨rfl, -, rfl⟩
      exact ⟨rfl, ⟨rfl, rfl⟩, rfl⟩

/-- At most one request is sent. -/
theorem countP_isSend_le : calls.countP Call.isSend ≤ 1 := by
  cases h <;> simp [List.countP_cons, Call.isSend]

/-- Each lease of a target that is got is given back. -/
theorem countP_givesBack (t : Target) :
    calls.countP (Call.givesBack t) = calls.countP (Call.gets transport t) := by
  cases h with
  | nothing => rfl
  | asking h hl | sending h hl =>
    simp [List.countP_cons, Call.givesBack, Call.gets, hl, Except.toBool]

end Calls

/-- **The call protocol.** Nothing is called where no target is resolved or the message misses its
policy; a lease alone where there is none to be had; and otherwise a lease, one sending of the media
type and the payload as they are, and one release, all for the target that the selector asks for. So
at most one sending is made, and each lease that is got is given back once. -/
theorem calls_follow_protocol {Lease : Type} (e : Engine) (transport : Transport Lease)
    (s : Selector) (m : Message) :
    let calls := (e.forward transport s m).calls
    (calls = [] ∨ (∃ t, calls = [.lease t]) ∨
      ∃ t o, calls = [.lease t, .send t o, .release t]) ∧
    (calls = [] ↔ (∃ failure, e.registry.resolve s = .error failure) ∨
      ∃ t failure, e.registry.resolve s = .ok t ∧ t.check m = .error failure) ∧
    (∀ t, calls = [.lease t] ↔
      (e.registry.resolve s = .ok t ∧ t.check m = .ok ()) ∧
        ∃ failure, transport.lease t = .error failure) ∧
    (∀ t o, calls = [.lease t, .send t o, .release t] ↔
      (e.registry.resolve s = .ok t ∧ t.check m = .ok ()) ∧
        (∃ lease, transport.lease t = .ok lease) ∧ o = ⟨m.mediaType, m.payload⟩) ∧
    calls.countP Call.isSend ≤ 1 ∧
    ∀ t, calls.countP (Call.givesBack t) = calls.countP (Call.gets transport t) := by
  intro calls
  -- Said with what resolving and checking give.
  have h : Calls e transport s m calls := calls_forward e transport s m
  simp only [← prepare_eq_ok, ← prepare_eq_error]
  exact ⟨h.shape, h.eq_nil_iff, h.eq_asking_iff, h.eq_sending_iff, h.countP_isSend_le,
    h.countP_givesBack⟩

end Engine

end ObliviousRelay
