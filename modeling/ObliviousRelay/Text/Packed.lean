/-!
# Packed numbers

Numbers written one after the other in base 32. The last digit of a number is from one alphabet, and
all digits before it are from another, so that no separator is needed.

- `Packed.numbers` reads a list of rows.
-/

namespace ObliviousRelay.Text.Packed

/-- A digit, and whether it is the last one of its number. -/
def digit? (c : Char) : Option (Nat × Bool) :=
  if '0' ≤ c && c ≤ '9' then some (c.toNat - 48, true)
  else if 'a' ≤ c && c ≤ 'v' then some (c.toNat - 87, true)
  else if 'A' ≤ c && c ≤ 'Z' then some (c.toNat - 65, false)
  else if 'w' ≤ c && c ≤ 'z' then some (c.toNat - 93, false)
  else if c = '-' then some (30, false)
  else if c = '+' then some (31, false)
  else none

/-- Reads numbers, behind the digits of the first one that have been read. -/
def numbersFrom (n : Nat) : List Char → List Nat
  | [] => []
  | c :: rest =>
    match digit? c with
    | some (d, true) => (n * 32 + d) :: numbersFrom 0 rest
    | some (d, false) => numbersFrom (n * 32 + d) rest
    | none => numbersFrom n rest

/-- Reads the numbers of some rows. -/
def numbers (rows : List String) : List Nat := numbersFrom 0 (rows.flatMap String.toList)

end ObliviousRelay.Text.Packed
