/-!
# Deadlines

A deadline is a fixed moment. Work is bounded by it, or by the earlier of it and a limit of its own.
Work that ends exactly at its bound has ended in time, and work that takes no time always ends.
Times are in milliseconds.

- `Deadline.run` and `Deadline.runCapped` tell how bounded work ends, and when.
-/

namespace ObliviousRelay.Timing

/-- A fixed moment by which an exchange has to end. -/
structure Deadline where
  moment : Nat
  deriving DecidableEq, Repr, Inhabited

/-- Which bound stopped some work. -/
inductive Expired where
  | deadline
  /-- The work's own limit; the deadline still has time. -/
  | limit
  deriving DecidableEq, Repr, Inhabited

/-- How bounded work ended, and when. -/
structure Ending (ε : Type) where
  result : Except ε Unit
  moment : Nat

/-- The name of a deadline's passing where no other bound is about. -/
def elapsedText : String := "deadline elapsed"

namespace Deadline

/-- The deadline a duration away from now. -/
def after (now duration : Nat) : Deadline := ⟨now + duration⟩

/-- Whether work that starts now and lasts so long ends by a moment; work without a length never
ends. -/
def endsBy (bound now : Nat) (work : Option Nat) : Bool :=
  match work with
  | none => false
  | some w => w == 0 || now + w ≤ bound

/-- How work bounded by a moment ends. A moment that has passed stops it at once. -/
def endingBy (bound now : Nat) (work : Option Nat) (e : ε) : Ending ε :=
  if endsBy bound now work then ⟨.ok (), now + work.getD 0⟩ else ⟨.error e, max now bound⟩

/-- How work bounded by the deadline ends. -/
def run (d : Deadline) (now : Nat) (work : Option Nat) : Ending Expired :=
  endingBy d.moment now work .deadline

/-- The earlier of the deadline and a limit from now; the deadline, if they coincide. -/
def cap (d : Deadline) (now limit : Nat) : Nat × Expired :=
  if now + limit < d.moment then (now + limit, .limit) else (d.moment, .deadline)

/-- How work bounded by the deadline and a limit ends. -/
def runCapped (d : Deadline) (now limit : Nat) (work : Option Nat) : Ending Expired :=
  endingBy (d.cap now limit).1 now work (d.cap now limit).2

end Deadline

end ObliviousRelay.Timing
