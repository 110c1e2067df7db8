import ObliviousRelay.Proofs.Gateway.ConnectionAccount

/-!
# Histories of a station

Events let time pass only as far as nobody is late. A history lets it pass at will besides, so an
exchange may be told of its moment at any time after it. What holds after every history holds where
nobody is late, too: there it is a list of events (`Occurrence.event`).

- `Station.occur` is the effect of one occurrence, `Station.history` of several.
- `SlotAccount.history` and `ConnectionAccount.history`: both accounts hold after every history.
- `history_target`: the gateway and the bounds stay what they are.
- `Transition.now`: time passes by itself only.
-/

namespace ObliviousRelay.Gateway

/-- Something that happens to a station, or time that passes although an exchange is due. -/
inductive Occurrence where
  | event (e : Event)
  | delay (duration : Nat)
  deriving DecidableEq

namespace Station

variable {s t : Station} {x : Nat} {p : Phase} {e : Event} {o : Outcome}
  {effects : List Effect}

/-- Lets time pass, whoever is due. -/
def wait (s : Station) (duration : Nat) : Station := { s with now := s.now + duration }

/-- The effect of one occurrence. -/
def occur (s : Station) : Occurrence → Outcome
  | .event e => s.step e
  | .delay duration => (s.wait duration, [])

/-- The effect of several occurrences. -/
def history (s : Station) : List Occurrence → Outcome
  | [] => (s, [])
  | o :: rest => (s.occur o).andThen (·.history rest)

/-! ## Parts of histories -/

/-- A history is its first occurrence and the rest. -/
theorem history_cons (s : Station) (o : Occurrence) (rest : List Occurrence) :
    s.history (o :: rest) =
      (((s.occur o).1.history rest).1, (s.occur o).2 ++ ((s.occur o).1.history rest).2) := rfl

/-- A history may be cut in two anywhere. -/
theorem history_append (s : Station) (past future : List Occurrence) :
    s.history (past ++ future) = (((s.history past).1.history future).1,
      (s.history past).2 ++ ((s.history past).1.history future).2) := by
  induction past generalizing s with
  | nil => rfl
  | cons o rest ih => rw [List.cons_append, history_cons, ih, history_cons, List.append_assoc]

/-- A history goes on with one more occurrence. -/
theorem history_concat (s : Station) (past : List Occurrence) (o : Occurrence) :
    s.history (past ++ [o]) = (((s.history past).1.occur o).1,
      (s.history past).2 ++ ((s.history past).1.occur o).2) := by
  rw [history_append, history_cons]
  simp [history]

/-- What every occurrence keeps, together with the effects so far, holds after a history. -/
theorem history_induction {P : Station → List Effect → Prop} (effects : List Effect) (h : P s effects)
    (hoccur : ∀ s effects o, P s effects → P (s.occur o).1 (effects ++ (s.occur o).2))
    (os : List Occurrence) : P (s.history os).1 (effects ++ (s.history os).2) := by
  induction os generalizing s effects with
  | nil => simpa [history] using h
  | cons o rest ih =>
    rw [history_cons, ← List.append_assoc]
    exact ih _ (hoccur s effects o h)

/-! ## The gateway and the bounds stay -/

/-- Giving a slot back keeps the gateway and the policy. -/
theorem finish_target : (s.finish x).1.target = s.target ∧ (s.finish x).1.policy = s.policy := by
  rcases s.finish_shape x with ⟨slots, heq⟩ | ⟨slots, y, timeout, heq⟩ <;> rw [heq] <;>
    exact ⟨rfl, rfl⟩

/-- A transition keeps the gateway and the policy. -/
theorem Transition.target (ht : Transition s e o) :
    o.1.target = s.target ∧ o.1.policy = s.policy := by
  cases ht with
  | @ending e p disposal tail x hp hending =>
    -- An end takes two steps, and neither touches the gateway or the bounds.
    have hdisposal : disposal.1.target = s.target ∧ disposal.1.policy = s.policy := by
      cases hending with
      | releaseClean c t hclean =>
        unfold putAside
        split <;> exact ⟨rfl, rfl⟩
      | drop p hslot =>
        rw [closeOwn, closeAll_eq]
        exact ⟨rfl, rfl⟩
      | _ => exact ⟨rfl, rfl⟩
    exact ⟨finish_target.1.trans hdisposal.1, finish_target.2.trans hdisposal.2⟩
  | _ => exact ⟨rfl, rfl⟩

/-- So does an occurrence. -/
theorem occur_target (s : Station) (o : Occurrence) :
    (s.occur o).1.target = s.target ∧ (s.occur o).1.policy = s.policy := by
  cases o with
  | event e => exact (step_transition s e).target
  | delay duration => exact ⟨rfl, rfl⟩

/-- So does a history. -/
theorem history_target (s : Station) (os : List Occurrence) :
    (s.history os).1.target = s.target ∧ (s.history os).1.policy = s.policy :=
  history_induction (P := fun r _ => r.target = s.target ∧ r.policy = s.policy) []
    ⟨rfl, rfl⟩ (fun r _ o h => ⟨(occur_target r o).1.trans h.1, (occur_target r o).2.trans h.2⟩) os

/-! ## Time passes by itself only -/

/-- Giving a slot back takes no time. -/
theorem finish_now : (s.finish x).1.now = s.now := by
  rcases s.finish_shape x with ⟨slots, heq⟩ | ⟨slots, y, timeout, heq⟩ <;> rw [heq] <;> rfl

/-- Only the passing of time moves the clock. -/
theorem Transition.now (ht : Transition s e o) (he : ∀ duration, e ≠ .elapse duration) :
    o.1.now = s.now := by
  cases ht with
  | elapse duration => exact absurd rfl (he duration)
  | @ending e p disposal tail x hp hending =>
    have hdisposal : disposal.1.now = s.now := by
      cases hending with
      | releaseClean c t hclean =>
        unfold putAside
        split <;> rfl
      | drop p hslot =>
        rw [closeOwn, closeAll_eq]
        rfl
      | _ => rfl
    exact finish_now.trans hdisposal
  | _ => rfl

/-- The clock never goes back. -/
theorem now_le_occur (s : Station) (o : Occurrence) : s.now ≤ (s.occur o).1.now := by
  cases o with
  | delay duration => exact Nat.le_add_right _ _
  | event e =>
    show s.now ≤ (s.step e).1.now
    by_cases he : ∃ duration, e = .elapse duration
    · obtain ⟨duration, rfl⟩ := he
      -- Time passes only if nobody's moment would be missed.
      simp only [step]
      split
      · exact Nat.le_add_right _ _
      · exact Nat.le_refl _
    · exact ((step_transition s e).now fun duration heq => he ⟨duration, heq⟩).ge

/-! ## The accounts hold -/

/-- An occurrence keeps the account of slots. -/
theorem SlotAccount.occur (h : s.SlotAccount) (o : Occurrence) : (s.occur o).1.SlotAccount := by
  cases o with
  | event e => exact h.transition (step_transition s e)
  | delay duration => exact h.of_same rfl rfl rfl

/-- So does a history. -/
theorem SlotAccount.history (h : s.SlotAccount) (os : List Occurrence) :
    (s.history os).1.SlotAccount :=
  history_induction (P := fun r _ => r.SlotAccount) [] h (fun _ _ o h => h.occur o) os

/-- An occurrence keeps the account of connections. -/
theorem ConnectionAccount.occur (h : s.ConnectionAccount effects) (hs : s.SlotAccount)
    (o : Occurrence) : (s.occur o).1.ConnectionAccount (effects ++ (s.occur o).2) := by
  cases o with
  | event e => exact h.transition hs (step_transition s e)
  | delay duration =>
    exact h.extend_quiet rfl rfl rfl (fun _ => rfl) rfl (fun n => by simp [Station.occur])

/-- So does a history. -/
theorem ConnectionAccount.history (h : s.ConnectionAccount effects) (hs : s.SlotAccount)
    (os : List Occurrence) :
    (s.history os).1.ConnectionAccount (effects ++ (s.history os).2) :=
  (history_induction (P := fun r effects => r.SlotAccount ∧ r.ConnectionAccount effects) effects
    ⟨hs, h⟩
    (fun _ _ o h => ⟨h.1.occur o, h.2.occur h.1 o⟩) os).2

/-- After every history of a new station both accounts hold. -/
theorem accounts_ofTarget (target : Target) (policy : Policy) (os : List Occurrence) :
    ((ofTarget target policy).history os).1.SlotAccount ∧
      ((ofTarget target policy).history os).1.ConnectionAccount
        ((ofTarget target policy).history os).2 := by
  have hslots := SlotAccount.ofTarget target policy
  exact ⟨hslots.history os, (ConnectionAccount.ofTarget target policy).history hslots os⟩

/-! ## A small station -/

/-- A gateway with room for two connections. -/
def sampleTarget : Target where
  name := "gateway"
  endpoint := { scheme := "http", path := "/" }
  acceptedMediaTypes := [.request]
  maxBodySize := 1024
  poolSize := 2
  requestTimeout := 1000
  queueWait := 50

/-- Bounds under which a connection is attempted twice. -/
def samplePolicy : Policy where
  connectTimeout := 100
  idleTimeout := 5000
  maxResponseSize := 1024
  retry := ⟨2, 10, 100⟩

end Station

end ObliviousRelay.Gateway
