/-!
# Backoff

The delay before a repeated attempt doubles with each attempt up to a bound; a random part of less
than a tenth is added to it. All of it is computed in words of 64 bits that saturate.

- `Backoff.capped` is the delay without its random part.
- `Backoff.range?` is the range of the whole delay, which must fit in a word.
-/

namespace ObliviousRelay.Timing

/-- The largest word of 64 bits. -/
def maxWord : Nat := Nat.pow 2 64 - 1

/-- The sum, product or power as a word, the largest word where it does not fit. -/
def saturate (n : Nat) : Nat := min n maxWord

/-- A power of two as a saturating word. -/
def saturatingPower (exponent : Nat) : Nat :=
  if exponent < 64 then Nat.pow 2 exponent else maxWord

namespace Backoff

/-- The delay after the attempt of a number, counted from one, without its random part. -/
def capped (attempt base bound : Nat) : Nat :=
  if attempt = 0 then 0 else min (saturate (base * saturatingPower (attempt - 1))) bound

/-- The random part is below this, or zero where this is zero. -/
def jitterBound (delay : Nat) : Nat := delay / 10

/-- A random part that may be added to a delay. -/
def IsJitter (delay jitter : Nat) : Prop :=
  jitter < jitterBound delay ∨ (jitterBound delay = 0 ∧ jitter = 0)

/-- The least and the greatest value of a delay with its random part. -/
structure Range where
  least : Nat
  greatest : Nat
  deriving DecidableEq, Repr

/-- The range of a delay with its random part. -/
def rangeOf (delay : Nat) : Range := ⟨delay, delay + (jitterBound delay - 1)⟩

/-- A delay with a random part, if it fits in a word. -/
def withJitter? (delay jitter : Nat) : Option Nat :=
  if delay + jitter ≤ maxWord then some (delay + jitter) else none

/-- The random part that a draw settles. -/
def jitterOf (delay draw : Nat) : Nat :=
  if jitterBound delay = 0 then 0 else draw % jitterBound delay

/-- A delay with the random part that a draw settles, if it fits in a word. -/
def withDraw? (delay draw : Nat) : Option Nat := withJitter? delay (jitterOf delay draw)

/-- The range of the delay after an attempt, if every value of it fits in a word. -/
def range? (attempt base bound : Nat) : Option Range :=
  let r := rangeOf (capped attempt base bound)
  if r.greatest ≤ maxWord then some r else none

end Backoff

end ObliviousRelay.Timing
