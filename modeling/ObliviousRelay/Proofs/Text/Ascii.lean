import Mathlib.Order.Basic
import ObliviousRelay.Text.Ascii

/-!
# Facts about ASCII characters

There are few ASCII characters, so what holds of each of them can be computed.

- `forall_ascii`: what holds of the first 128 characters holds of every ASCII character.
- `isAlphanumeric_of_isHex`: hexadecimal digits are letters or digits.
-/

namespace ObliviousRelay.Text

variable {c : Char}

/-- What holds of the first 128 characters holds of every ASCII character. -/
theorem forall_ascii {P : Char → Prop} (h : ∀ n ∈ List.range 128, P (Char.ofNat n))
    (hc : c.toNat < 128) : P c :=
  Char.ofNat_toNat c ▸ h c.toNat (List.mem_range.mpr hc)

/-- A character that is not ASCII comes after every one that is. -/
theorem not_le_ascii (hc : ¬ c.toNat < 128) {b : Char} (hb : b.toNat < 128) : ¬ c ≤ b := fun hle =>
  hc (Nat.lt_of_le_of_lt (UInt32.le_iff_toNat_le.mp (Char.le_def.mp hle)) hb)

theorem lt_of_isAlphanumeric (h : isAlphanumeric c = true) : c.toNat < 128 := by
  by_contra hge
  simp [isAlphanumeric, isLetter, isUpper, isLower, isDigit, not_le_ascii hge] at h

theorem isAlphanumeric_of_isHex (h : isHex c = true) : isAlphanumeric c = true := by
  have hascii : c.toNat < 128 := by
    by_contra hge
    simp [isHex, hexValue?, isDigit, not_le_ascii hge] at h
  have hall : ∀ n ∈ List.range 128, isHex (Char.ofNat n) = true →
      isAlphanumeric (Char.ofNat n) = true := by decide +kernel
  exact forall_ascii (P := fun c => isHex c = true → isAlphanumeric c = true) hall hascii h

end ObliviousRelay.Text
