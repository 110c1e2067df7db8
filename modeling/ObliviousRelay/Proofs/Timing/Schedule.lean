import ObliviousRelay.Proofs.Timing.Delays
import ObliviousRelay.Timing.Retry

/-!
# The schedule of delays

The delay after an attempt is told by numbers that no word limits: the base, doubled for each attempt
before it, and cut off at the bound. Although it is computed in words that saturate, it comes out as
just that, however late the attempt is, since what saturates lies above every bound that is a word.

- `Backoff.scheduled` is the delay as the numbers tell it; `Backoff.capped_eq_scheduled`.
- `Backoff.Spreads`: the delays that the draws give are those of a range; `Backoff.spreads_iff`.
- `Retry.delays_follow_schedule`: the delays, and after which attempts a policy has one.
-/

namespace ObliviousRelay.Timing

/-! ## Words cut off by a word -/

theorem saturate_of_le {n : Nat} (h : n ≤ maxWord) : saturate n = n := Nat.min_eq_left h

theorem saturate_of_ge {n : Nat} (h : maxWord ≤ n) : saturate n = maxWord := Nat.min_eq_right h

/-- A factor that saturates makes no difference to a product that saturates. -/
theorem saturate_mul_saturate (m n : Nat) : saturate (m * saturate n) = saturate (m * n) := by
  rcases Nat.le_total n maxWord with hfits | hlarge
  · rw [saturate_of_le hfits]
  · rcases Nat.eq_zero_or_pos m with rfl | hpos
    · rw [Nat.zero_mul, Nat.zero_mul]
    · -- Both products are at least the largest word.
      rw [saturate_of_ge hlarge, saturate_of_ge (Nat.le_mul_of_pos_left _ hpos),
        saturate_of_ge (hlarge.trans (Nat.le_mul_of_pos_left _ hpos))]

/-- What is cut off at a word need not saturate before. -/
theorem min_saturate {bound : Nat} (h : bound ≤ maxWord) (n : Nat) :
    min (saturate n) bound = min n bound := by
  rw [saturate, Nat.min_assoc, Nat.min_eq_right h]

namespace Backoff

variable {attempt attempt' base base' bound bound' delay jitter length : Nat}

/-! ## The schedule -/

/-- The delay after the attempt of a number, counted from one, without its random part: the base,
doubled for each attempt before it, and cut off at the bound. -/
def scheduled (attempt base bound : Nat) : Nat := min (base * 2 ^ (attempt - 1)) bound

theorem scheduled_le_bound (attempt base bound : Nat) : scheduled attempt base bound ≤ bound :=
  Nat.min_le_right _ _

/-- Later attempts, longer bases and higher bounds make no delay shorter. -/
theorem scheduled_mono (hattempt : attempt ≤ attempt') (hbase : base ≤ base')
    (hbound : bound ≤ bound') : scheduled attempt base bound ≤ scheduled attempt' base' bound' := by
  have hpower : 2 ^ (attempt - 1) ≤ 2 ^ (attempt' - 1) :=
    Nat.pow_le_pow_right (by decide) (Nat.sub_le_sub_right hattempt 1)
  exact min_le_min (Nat.mul_le_mul hbase hpower) hbound

/-- **The delay is the one of the schedule**, for a bound that is a word: neither the power nor the
product distorts it by saturating. -/
theorem capped_eq_scheduled (hattempt : attempt ≠ 0) (hbound : bound ≤ maxWord) :
    capped attempt base bound = scheduled attempt base bound := by
  rw [capped, if_neg hattempt, saturatingPower_eq, saturate_mul_saturate, min_saturate hbound]
  rfl

/-! ## What draws give -/

/-- The random parts of a delay are an initial run of the numbers. -/
theorem isJitter_iff_le : IsJitter delay jitter ↔ jitter ≤ delay / 10 - 1 := by
  unfold IsJitter jitterBound
  omega

/-- Every random part is settled by a draw: by itself. -/
theorem jitterOf_self (h : IsJitter delay jitter) : jitterOf delay jitter = jitter := by
  unfold jitterOf
  rcases h with hbelow | ⟨hzero, rfl⟩
  · rw [if_neg (Nat.ne_zero_of_lt hbelow), Nat.mod_eq_of_lt hbelow]
  · rw [if_pos hzero]

/-- Just these are the delays that draws give: from the delay itself to less than a tenth above it,
as far as they are words. -/
theorem exists_withDraw?_iff :
    (∃ draw, withDraw? delay draw = some length) ↔
      delay ≤ length ∧ length ≤ delay + (delay / 10 - 1) ∧ length ≤ maxWord := by
  constructor
  · rintro ⟨draw, hdraw⟩
    obtain ⟨rfl, hword⟩ := withDraw?_eq_some hdraw
    have hjitter := isJitter_iff_le.mp (isJitter_jitterOf delay draw)
    exact ⟨Nat.le_add_right _ _, Nat.add_le_add_left hjitter _, hword⟩
  · rintro ⟨hleast, hmost, hword⟩
    -- The draw is what the length has more than the delay.
    have hjitter : IsJitter delay (length - delay) := isJitter_iff_le.mpr (by omega)
    refine ⟨length - delay, ?_⟩
    rw [withDraw?, jitterOf_self hjitter, withJitter?, Nat.add_sub_cancel' hleast, if_pos hword]

/-- The delays that draws give are those of a range: every draw gives one, and every one is given by
some draw. -/
structure Spreads (range : Range) (outcome : Nat → Option Nat) : Prop where
  gives : ∀ draw, ∃ length, outcome draw = some length ∧
    range.least ≤ length ∧ length ≤ range.greatest
  given : ∀ length, range.least ≤ length → length ≤ range.greatest →
    ∃ draw, outcome draw = some length

/-- **Draws spread a delay over its whole range** just where it is not above the longest delay. -/
theorem spreads_iff : Spreads (rangeOf delay) (withDraw? delay) ↔ delay ≤ longest := by
  constructor
  · intro h
    refine fits_iff.mp fun jitter hjitter => ?_
    -- The greatest length of the range is one that a draw has to give.
    have hmost : delay + jitter ≤ (rangeOf delay).greatest :=
      Nat.add_le_add_left (isJitter_iff_le.mp hjitter) delay
    exact (exists_withDraw?_iff.mp (h.given _ (Nat.le_add_right _ _) hmost)).2.2
  · intro h
    have hfits := fits_iff.mpr h
    refine ⟨fun draw => ?_, fun length hleast hmost => ?_⟩
    · -- No draw is lost, since the delay fits.
      cases hdraw : withDraw? delay draw with
      | none => exact absurd h (Nat.not_le.mpr (longest_lt_of_withDraw? hdraw))
      | some length =>
        obtain ⟨hleast, hmost, -⟩ := exists_withDraw?_iff.mp ⟨draw, hdraw⟩
        exact ⟨length, rfl, hleast, hmost⟩
    · -- The greatest random part fits, and with it every length of the range.
      obtain ⟨greatest, hgreatest, heq⟩ := exists_jitter_greatest delay
      have hword : length ≤ maxWord := hmost.trans (heq ▸ hfits greatest hgreatest)
      exact exists_withDraw?_iff.mpr ⟨hleast, hmost, hword⟩

/-- The range of a delay that is not above the longest one is given as it is. -/
theorem range?_of_le (h : capped attempt base bound ≤ longest) :
    range? attempt base bound = some (rangeOf (capped attempt base bound)) := by
  obtain ⟨jitter, hjitter, hgreatest⟩ := exists_jitter_greatest (capped attempt base bound)
  exact if_pos (hgreatest ▸ fits_iff.mpr h jitter hjitter)

/-- A delay that fits with a tenth of it is not above the longest one. -/
theorem le_longest_of_tenth (h : delay + delay / 10 ≤ maxWord) : delay ≤ longest := by
  have hword : maxWord = 18446744073709551615 := by decide
  simp only [longest, hword] at h ⊢
  omega

end Backoff

/-! ## The policy -/

namespace Retry

open Backoff (capped scheduled Spreads withDraw? range? rangeOf)

/-- **The delays follow the schedule.** For every attempt, counted from one, every base and every
bound:

- The delay without its random part is the one of the schedule, however late the attempt.
- The delay of the schedule is never above the bound, and no shorter for a later attempt, a longer
  base and a higher bound.
- Where it fits with a tenth of it, every draw gives a delay with its random part, from the delay
  itself to one less than a tenth above it, or just itself where that is below it. Each of these is
  given by some draw, and they are the range of the delay.
- A policy with this base and this bound has this delay after every attempt before its last one, and
  none after that one or a later one. No attempts count as one. -/
theorem delays_follow_schedule (attempt : UInt32) (hattempt : attempt ≠ 0) (base bound : UInt64) :
    let delay := capped attempt.toNat base.toNat bound.toNat
    let d := scheduled attempt.toNat base.toNat bound.toNat
    delay = d ∧ d ≤ bound.toNat ∧
    (∀ (attempt' : UInt32) (base' bound' : UInt64),
      attempt ≤ attempt' → base ≤ base' → bound ≤ bound' →
        d ≤ scheduled attempt'.toNat base'.toNat bound'.toNat) ∧
    (d + d / 10 ≤ maxWord →
      Spreads ⟨d, d + (d / 10 - 1)⟩ (withDraw? delay) ∧
        range? attempt.toNat base.toNat bound.toNat = some ⟨d, d + (d / 10 - 1)⟩) ∧
    ∀ attempts : UInt32,
      let policy := ofConfig { connectAttempts := attempts, baseDelayMs := base, maxDelayMs := bound }
      (attempt.toNat < max 1 attempts.toNat → policy.nextDelay attempt.toNat = some delay) ∧
        (max 1 attempts.toNat ≤ attempt.toNat → policy.nextDelay attempt.toNat = none) := by
  intro delay d
  have hpos : attempt.toNat ≠ 0 := fun hzero => hattempt (UInt32.toNat_inj.mp hzero)
  have hdelay : delay = d :=
    Backoff.capped_eq_scheduled hpos (Nat.le_sub_one_of_lt bound.toNat_lt)
  refine ⟨hdelay, Backoff.scheduled_le_bound _ _ _, fun attempt' base' bound' ha hb hc =>
    Backoff.scheduled_mono ha hb hc, fun hfits => ?_, fun attempts => ?_⟩
  · -- Where a tenth fits on top of it, the delay is not above the longest.
    rw [← hdelay] at hfits ⊢
    have hroom := Backoff.le_longest_of_tenth hfits
    exact ⟨Backoff.spreads_iff.mpr hroom, Backoff.range?_of_le hroom⟩
  · -- The policy takes this maximum the other way round.
    rw [Nat.max_comm]
    exact ⟨fun hbefore => if_neg (Nat.not_le.mpr hbefore), fun hlast => if_pos hlast⟩

/-- Neither the power nor the product is a word here, and the delay just fits with a tenth of it. It
follows the 66th attempt of 67, and no attempt follows the 66th of 66. -/
theorem delays_follow_schedule_late :
    let bound : UInt64 := 16769767339735956014
    capped 66 3 bound.toNat = 16769767339735956014 ∧
      Spreads ⟨16769767339735956014, 18446744073709551614⟩ (withDraw? (capped 66 3 bound.toNat)) ∧
      (ofConfig ⟨67, 3, bound⟩).nextDelay 66 = some (capped 66 3 bound.toNat) ∧
      (ofConfig ⟨66, 3, bound⟩).nextDelay 66 = none := by
  intro bound
  obtain ⟨hdelay, -, -, hspreads, hpolicy⟩ := delays_follow_schedule 66 (by decide) 3 bound
  have hd : scheduled (66 : UInt32).toNat (3 : UInt64).toNat bound.toNat = 16769767339735956014 := by
    decide
  rw [hd] at hdelay hspreads
  exact ⟨hdelay, (hspreads (by decide)).1, (hpolicy 67).1 (by decide), (hpolicy 66).2 (by decide)⟩

end Retry

end ObliviousRelay.Timing
