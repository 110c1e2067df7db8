import ObliviousRelay.Net.Ip
import ObliviousRelay.Proofs.Text.Split

/-!
# Numbers are read as they are written

A number that is written in a base up to sixteen is taken back from the front of a text, wherever its
digits end.

- `takeNumber?_toDigits`: what is taken is the number that was written.
- `eq_zero_of_head?`: nothing but zero is written with a zero at its front.
-/

namespace ObliviousRelay.Net

variable {base n bound : Nat} {c : Char} {cs rest : List Char}

/-! ## Digits -/

theorem hexValue?_digitChar (h : n < 16) : Text.hexValue? n.digitChar = some n := by
  have hall : ∀ m ∈ List.range 16, Text.hexValue? (Nat.digitChar m) = some m := by decide
  exact hall n (List.mem_range.mpr h)

theorem isDigitOf_digitChar (hbase : base ≤ 16) (h : n < base) :
    isDigitOf base n.digitChar = true := by
  rw [isDigitOf, hexValue?_digitChar (Nat.lt_of_lt_of_le h hbase)]
  exact decide_eq_true h

/-- What is written are digits of the base. -/
theorem isDigitOf_of_mem_toDigits (hlow : 1 < base) (hhigh : base ≤ 16)
    (h : c ∈ Nat.toDigits base n) : isDigitOf base c = true := by
  induction n using Nat.strongRecOn with
  | ind n ih =>
    rw [Nat.toDigits_eq_if hlow] at h
    split at h
    -- The number is one digit.
    · next hlt =>
      obtain rfl := List.mem_singleton.mp h
      exact isDigitOf_digitChar hhigh hlt
    -- The last digit is its remainder, and those before it are those of its quotient.
    · next hge =>
      rcases List.mem_append.mp h with h | h
      · exact ih (n / base) (Nat.div_lt_self (by omega) hlow) h
      · obtain rfl := List.mem_singleton.mp h
        exact isDigitOf_digitChar hhigh (Nat.mod_lt _ (by omega))

theorem digitsIn_concat : digitsIn base (cs ++ [c]) =
    digitsIn base cs * base + (Text.hexValue? c).getD 0 := by
  rw [digitsIn, List.foldl_append]
  rfl

/-- The digits have the value of the number. -/
theorem digitsIn_toDigits (hlow : 1 < base) (hhigh : base ≤ 16) (n : Nat) :
    digitsIn base (Nat.toDigits base n) = n := by
  induction n using Nat.strongRecOn with
  | ind n ih =>
    rw [Nat.toDigits_eq_if hlow]
    split
    · next hlt =>
      have hvalue := hexValue?_digitChar (Nat.lt_of_lt_of_le hlt hhigh)
      simp [digitsIn, hvalue]
    · next hge =>
      have hmod : n % base < 16 := Nat.lt_of_lt_of_le (Nat.mod_lt _ (by omega)) hhigh
      rw [digitsIn_concat, ih (n / base) (Nat.div_lt_self (by omega) hlow),
        hexValue?_digitChar hmod]
      exact Nat.div_add_mod' n base

/-- Nothing but zero is written with a zero at its front. -/
theorem eq_zero_of_head? (hlow : 1 < base) (hhigh : base ≤ 16)
    (h : (Nat.toDigits base n).head? = some '0') : n = 0 := by
  induction n using Nat.strongRecOn with
  | ind n ih =>
    rw [Nat.toDigits_eq_if hlow] at h
    split at h
    · -- A single digit that reads as zero is that of zero.
      exact Nat.digitChar_eq_zero.mp (Option.some.inj h)
    · next hge =>
      have hhead := List.head?_eq_some_head (Nat.toDigits_ne_nil (n := n / base) (b := base))
      rw [List.head?_append, hhead, Option.some_or] at h
      have hzero := ih (n / base) (Nat.div_lt_self (by omega) hlow) (hhead.trans h)
      -- The quotient is zero, and so the number was a single digit.
      exact absurd (Nat.div_pos (Nat.not_lt.mp hge) (by omega)) (by omega)

/-! ## Numbers -/

/-- **A number that was written is taken back.** -/
theorem takeNumber?_toDigits (hlow : 1 < base) (hhigh : base ≤ 16) {most : Option Nat} {zeros : Bool}
    (hmost : ∀ m ∈ most, (Nat.toDigits base n).length ≤ m) (hbound : n < bound)
    (hrest : StopsAtFront (isDigitOf base) rest) :
    takeNumber? base most zeros bound (Nat.toDigits base n ++ rest) = some (n, rest) := by
  have hdigits : ∀ c ∈ Nat.toDigits base n, isDigitOf base c = true := fun c hc =>
    isDigitOf_of_mem_toDigits hlow hhigh hc
  have htake := takeWhile_append_stop hdigits hrest
  have hdrop := dropWhile_append_stop hdigits hrest
  have hshort : most.any (· < (Nat.toDigits base n).length) = false := by
    cases most with
    | none => rfl
    | some m => simpa using hmost m rfl
  -- Only zero begins with a zero, and it is one digit long.
  have hzeros : (!zeros && (Nat.toDigits base n).head? == some '0' &&
      decide (1 < (Nat.toDigits base n).length)) = false := by
    by_cases hhead : (Nat.toDigits base n).head? = some '0'
    · obtain rfl := eq_zero_of_head? hlow hhigh hhead
      simp
    · simp [hhead]
  have hvalue := digitsIn_toDigits hlow hhigh n
  simp [takeNumber?, htake, hdrop, hshort, hzeros, hvalue, hbound, Nat.toDigits_ne_nil]

/-- Where a number is taken its digits stood at the front. -/
theorem exists_digits_of_takeNumber? {most : Option Nat} {zeros : Bool}
    (h : takeNumber? base most zeros bound cs = some (n, rest)) :
    ∃ digits, cs = digits ++ rest ∧ digits ≠ [] ∧ ∀ c ∈ digits, isDigitOf base c = true := by
  unfold takeNumber? at h
  simp only at h
  split at h
  · cases h
  · next hne =>
    -- Whichever checks the number passes, what is left is what follows its digits.
    have hrest : cs.dropWhile (isDigitOf base) = rest := by
      split at h
      · cases h
      · split at h
        · cases h
        · split at h
          · exact (Prod.mk.inj (Option.some.inj h)).2
          · cases h
    refine ⟨cs.takeWhile (isDigitOf base), ?_, by simpa using hne, fun c hc =>
      List.mem_takeWhile_imp hc⟩
    rw [← hrest, List.takeWhile_append_dropWhile]

/-- A text that does not begin with a digit begins with no number. -/
theorem takeNumber?_of_stopsAtFront {most : Option Nat} {zeros : Bool}
    (h : StopsAtFront (isDigitOf base) cs) : takeNumber? base most zeros bound cs = none := by
  simp [takeNumber?, h.takeWhile_eq]

end ObliviousRelay.Net
