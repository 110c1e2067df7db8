import ObliviousRelay.Proofs.Gateway.Counters
import ObliviousRelay.Proofs.Gateway.Frame

/-!
# What an exchange does itself

Some effects, such as a connection that is opened, are about no exchange. They are told apart here by
the occurrences that they come from: those that are about an exchange, and all others.

- `Station.effectsWhere` has the effects of those occurrences of a history that satisfy a test;
  `ownEffects` are those of one exchange.
- `count_ownEffects`: what is about an exchange comes from its own occurrences, grants apart.
- `Station.history_aside`: an exchange with a slot stays in its phase while others have their turn.
-/

namespace ObliviousRelay.Gateway

/-- The exchange that an occurrence is about. -/
def Occurrence.about? : Occurrence → Option Nat
  | .event e => e.about?
  | .delay _ => none

namespace Station

variable {s : Station} {x : Nat} {p : Phase} {os more : List Occurrence} {o : Occurrence}

/-- The effects of those occurrences that satisfy a test. -/
def effectsWhere (keep : Occurrence → Bool) (s : Station) : List Occurrence → List Effect
  | [] => []
  | o :: rest => (if keep o then (s.occur o).2 else []) ++ (s.occur o).1.effectsWhere keep rest

/-- The effects of the occurrences that are about an exchange. -/
abbrev ownEffects (x : Nat) : Station → List Occurrence → List Effect :=
  effectsWhere (·.about? = some x)

/-- The effects of all other occurrences. -/
abbrev otherEffects (x : Nat) : Station → List Occurrence → List Effect :=
  effectsWhere fun o => !decide (o.about? = some x)

/-- What is kept of two courses is kept of one after the other. -/
theorem effectsWhere_append (keep : Occurrence → Bool) (s : Station) (os more : List Occurrence) :
    s.effectsWhere keep (os ++ more) =
      s.effectsWhere keep os ++ (s.history os).1.effectsWhere keep more := by
  induction os generalizing s with
  | nil => rfl
  | cons o rest ih => simp only [List.cons_append, effectsWhere, ih, List.append_assoc]; rfl

/-- No occurrence that fails the test has a part in it. -/
theorem effectsWhere_eq_nil {keep : Occurrence → Bool} (h : ∀ o ∈ os, keep o = false) :
    s.effectsWhere keep os = [] := by
  induction os generalizing s with
  | nil => rfl
  | cons o rest ih =>
    simp only [effectsWhere, h o List.mem_cons_self, Bool.false_eq_true, if_false, List.nil_append]
    exact ih fun o ho => h o (List.mem_cons_of_mem _ ho)

/-- An occurrence of its own is kept. -/
theorem ownEffects_cons_own (h : o.about? = some x) :
    s.ownEffects x (o :: os) = (s.occur o).2 ++ (s.occur o).1.ownEffects x os := by
  simp [ownEffects, effectsWhere, h]

/-- One of another exchange is not. -/
theorem ownEffects_cons_other (h : o.about? ≠ some x) :
    s.ownEffects x (o :: os) = (s.occur o).1.ownEffects x os := by
  simp [ownEffects, effectsWhere, h]

/-- Every effect comes from an occurrence of the exchange or from another one. -/
theorem countP_own_add_other (f : Effect → Bool) (s : Station) (x : Nat) (os : List Occurrence) :
    (s.ownEffects x os).countP f + (s.otherEffects x os).countP f =
      (s.history os).2.countP f := by
  -- Each occurrence is counted on one of the two sides.
  induction os generalizing s with
  | nil => rfl
  | cons o rest ih =>
    have hrest := ih (s.occur o).1
    simp only [history_cons, ownEffects, otherEffects, effectsWhere, List.countP_append] at hrest ⊢
    by_cases hx : o.about? = some x
    · simp only [hx, decide_true, Bool.not_true, Bool.false_eq_true, if_true, if_false,
        List.countP_nil]
      omega
    · simp only [hx, decide_false, Bool.not_false, Bool.false_eq_true, if_true, if_false,
        List.countP_nil]
      omega

/-- **What is about an exchange comes from its own occurrences**, grants of slots apart. -/
theorem count_ownEffects (h : s.SlotAccount) {f : Effect} (hx : f.about? = some x)
    (hgrant : f ≠ .granted x) (os : List Occurrence) :
    (s.ownEffects x os).count f = (s.history os).2.count f := by
  induction os generalizing s with
  | nil => rfl
  | cons o rest ih =>
    rw [history_cons, List.count_append, ← ih (h.occur o)]
    by_cases ho : o.about? = some x
    · rw [ownEffects_cons_own ho, List.count_append]
    · -- What tells of an exchange at another's event is a grant.
      have hnot : f ∉ (s.occur o).2 := by
        intro hf
        cases o with
        | delay duration => cases hf
        | event e => exact ((step_transition s e).effects_about h hf hx).elim ho hgrant
      rw [ownEffects_cons_other ho, List.count_eq_zero.mpr hnot, Nat.zero_add]

/-- What is not about an exchange leaves it where it is, or grants it a slot. -/
theorem occur_aside (h : s.SlotAccount) (ho : o.about? ≠ some x) :
    (s.occur o).1.phase? x = s.phase? x ∨ ∃ timeout, s.phase? x = some (.queued timeout) ∧
      (s.occur o).1.phase? x = some (.granted timeout) := by
  cases o with
  | delay duration => exact .inl rfl
  | event e =>
    rcases (step_transition s e).others h ho with ⟨hsame, -⟩ | ⟨timeout, hqueued, hgranted, -⟩
    · exact .inl hsame
    · exact .inr ⟨timeout, hqueued, hgranted⟩

/-- No time passes at an event that is about an exchange. -/
theorem now_step {e : Event} (he : e.about? = some x) : (s.step e).1.now = s.now :=
  (step_transition s e).now fun duration heq => by
    rw [heq] at he
    cases he

/-- **An exchange with a slot stays in its phase** while others have their turn. -/
theorem history_aside (h : s.SlotAccount) (hp : s.phase? x = some p) (hslot : p.hasSlot = true)
    (hos : ∀ o ∈ os, o.about? ≠ some x) : (s.history os).1.phase? x = some p := by
  induction os generalizing s with
  | nil => exact hp
  | cons o rest ih =>
    have hfirst : (s.occur o).1.phase? x = some p := by
      rcases occur_aside h (hos o List.mem_cons_self) with hsame | ⟨timeout, hqueued, -⟩
      · rw [hsame, hp]
      · -- Who holds a slot does not wait for one.
        obtain rfl := Option.some.inj (hp.symm.trans hqueued)
        cases hslot
    exact ih (h.occur o) hfirst fun o ho => hos o (List.mem_cons_of_mem _ ho)

end Station

end ObliviousRelay.Gateway
