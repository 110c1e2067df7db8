import ObliviousRelay.Config.Schema
import ObliviousRelay.Timing.Backoff

/-!
# Repetition of connection attempts

Only the making of a connection is ever repeated, for nothing has been sent then. A policy bounds
the attempts of one lease and gives the delay before each repetition.
-/

namespace ObliviousRelay.Timing

/-- How often, and after which delays, a connection is attempted. -/
structure Retry where
  /-- Attempts in all, at least one. -/
  maxAttempts : Nat
  baseDelay : Nat
  maxDelay : Nat
  deriving DecidableEq, Repr

namespace Retry

/-- The policy of a configuration; no attempts count as one. -/
def ofConfig (c : Config.Retries) : Retry where
  maxAttempts := max c.connectAttempts.toNat 1
  baseDelay := c.baseDelayMs.toNat
  maxDelay := c.maxDelayMs.toNat

/-- The delay, without its random part, after the attempt of a number that failed; none once the
attempts are used up. -/
def nextDelay (p : Retry) (attempt : Nat) : Option Nat :=
  if p.maxAttempts ≤ attempt then none
  else some (Backoff.capped attempt p.baseDelay p.maxDelay)

end Retry

end ObliviousRelay.Timing
