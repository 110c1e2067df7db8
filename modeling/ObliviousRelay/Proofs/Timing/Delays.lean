import Mathlib.Algebra.Order.Group.Nat
import ObliviousRelay.Timing.Backoff

/-!
# Delays that fit

The delay before a repeated attempt is computed in words. Its power, its product and its bound
saturate, so they never leave them; the random part is added at the end, and may.

- `saturatingPower_eq`: a saturating power is the power, cut off at the largest word.
- `Backoff.longest` is the longest delay that leaves room for its random part; `fits_iff`.
- `Backoff.longest_lt_of_withDraw?`: where a draw gives no delay, there was no room.
- `Backoff.delays_fit_iff`: the settings under which the delay after every attempt leaves it.
-/

namespace ObliviousRelay.Timing

/-! ## What saturates -/

theorem saturate_le (n : Nat) : saturate n ≤ maxWord := Nat.min_le_right _ _

/-- A saturating power of two is what it should be, cut off at the largest word. -/
theorem saturatingPower_eq (exponent : Nat) : saturatingPower exponent = saturate (2 ^ exponent) := by
  unfold saturatingPower saturate
  by_cases h : exponent < 64
  · -- The power is below the first number that is no word.
    have hlt : 2 ^ exponent < 2 ^ 64 := Nat.pow_lt_pow_right (by decide) h
    rw [if_pos h]
    exact (Nat.min_eq_left (Nat.le_sub_one_of_lt hlt)).symm
  · have hle : 2 ^ 64 ≤ 2 ^ exponent := Nat.pow_le_pow_right (by decide) (Nat.not_lt.mp h)
    rw [if_neg h]
    exact (Nat.min_eq_right (Nat.le_trans (Nat.sub_le _ _) hle)).symm

theorem saturatingPower_le (exponent : Nat) : saturatingPower exponent ≤ maxWord := by
  rw [saturatingPower_eq]
  exact saturate_le _

namespace Backoff

variable {attempt base bound delay : Nat}

theorem capped_le_bound (attempt base bound : Nat) : capped attempt base bound ≤ bound := by
  unfold capped
  split
  · exact Nat.zero_le _
  · exact Nat.min_le_right _ _

/-- Late enough, a delay that grows at all has reached its bound. -/
theorem capped_of_late (hbase : 0 < base) (hbound : bound ≤ maxWord) (hlate : 64 < attempt) :
    capped attempt base bound = bound := by
  have hpower : saturatingPower (attempt - 1) = maxWord := if_neg (by omega)
  have hproduct : maxWord ≤ base * maxWord := Nat.le_mul_of_pos_left _ hbase
  rw [capped, if_neg (by omega), hpower, saturate, Nat.min_eq_right hproduct,
    Nat.min_eq_right hbound]

theorem capped_zero_base (attempt bound : Nat) : capped attempt 0 bound = 0 := by
  simp [capped, saturate]

/-! ## The random part -/

/-- The longest delay to which every random part can be added. -/
def longest : Nat := 16769767339735956015

/-- **Just the delays up to the longest leave room** for all their random parts. -/
theorem fits_iff :
    (∀ jitter, IsJitter delay jitter → delay + jitter ≤ maxWord) ↔ delay ≤ longest := by
  have hword : maxWord = 18446744073709551615 := by decide
  simp only [IsJitter, jitterBound, longest, hword]
  constructor
  · -- The greatest random part is the one to look at.
    intro h
    by_cases hzero : delay / 10 = 0
    · omega
    · have hgreatest := h (delay / 10 - 1) (.inl (by omega))
      omega
  · -- No random part is above the greatest one, whatever the delay.
    rintro h jitter (hjitter | ⟨-, rfl⟩) <;> omega

/-- The greatest value of a delay is one of its values. -/
theorem exists_jitter_greatest (delay : Nat) :
    ∃ jitter, IsJitter delay jitter ∧ delay + jitter = (rangeOf delay).greatest := by
  refine ⟨jitterBound delay - 1, ?_, rfl⟩
  by_cases hzero : jitterBound delay = 0
  · exact .inr ⟨hzero, by rw [hzero]⟩
  · exact .inl (by omega)

/-- A draw settles a random part that may be added. -/
theorem isJitter_jitterOf (delay draw : Nat) : IsJitter delay (jitterOf delay draw) := by
  unfold IsJitter jitterOf
  by_cases hzero : jitterBound delay = 0
  · exact .inr ⟨hzero, if_pos hzero⟩
  · rw [if_neg hzero]
    exact .inl (Nat.mod_lt _ (Nat.pos_of_ne_zero hzero))

theorem withDraw?_eq_some {draw length : Nat} (h : withDraw? delay draw = some length) :
    length = delay + jitterOf delay draw ∧ length ≤ maxWord := by
  unfold withDraw? withJitter? at h
  split at h
  · next hfits =>
    obtain rfl := Option.some.inj h
    exact ⟨rfl, hfits⟩
  · cases h

theorem withDraw?_eq_none {draw : Nat} (h : withDraw? delay draw = none) :
    maxWord < delay + jitterOf delay draw := by
  unfold withDraw? withJitter? at h
  split at h
  · cases h
  · next hbig => exact Nat.not_le.mp hbig

/-- A delay that does not fit with its random part is one of those without room. -/
theorem longest_lt_of_withDraw? {draw : Nat} (h : withDraw? delay draw = none) :
    longest < delay := by
  by_contra hle
  have hfits := fits_iff.mpr (Nat.not_lt.mp hle) _ (isJitter_jitterOf delay draw)
  exact absurd (withDraw?_eq_none h) (Nat.not_lt.mpr hfits)

theorem isSome_withJitter?_iff {jitter : Nat} :
    (withJitter? delay jitter).isSome = true ↔ delay + jitter ≤ maxWord := by
  simp [withJitter?]

/-- **Just these settings** keep the delay after every attempt within words, whatever its random
part: there is no delay at all, or it is bounded by the longest one. -/
theorem delays_fit_iff (base bound : UInt64) :
    (∀ (attempt : UInt32) (jitter : Nat),
      IsJitter (capped attempt.toNat base.toNat bound.toNat) jitter →
        (withJitter? (capped attempt.toNat base.toNat bound.toNat) jitter).isSome = true) ↔
      base = 0 ∨ bound.toNat ≤ longest := by
  simp only [isSome_withJitter?_iff, fits_iff]
  constructor
  · intro h
    by_cases hbase : base = 0
    · exact .inl hbase
    · -- By the attempt after the 64th, the delay has reached its bound.
      have hpos : 0 < base.toNat := Nat.pos_of_ne_zero fun hzero =>
        hbase (UInt64.toNat_inj.mp hzero)
      have hbound : bound.toNat ≤ maxWord := Nat.le_sub_one_of_lt bound.toNat_lt
      have hlate := h 65
      rw [capped_of_late hpos hbound (by decide)] at hlate
      exact .inr hlate
  · rintro (rfl | hbound) attempt
    · -- Without a base every delay is nothing.
      rw [UInt64.toNat_zero, capped_zero_base]
      exact Nat.zero_le _
    · -- Every delay is within its bound.
      exact Nat.le_trans (capped_le_bound _ _ _) hbound

end Backoff

end ObliviousRelay.Timing
