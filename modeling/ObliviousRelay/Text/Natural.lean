import ObliviousRelay.Text.Ascii

/-!
# Natural numbers as text

Reading runs of digits in a base, and the bounded reading of unsigned words: an optional plus
sign, then at least one digit, with nothing else and no overflow.
-/

namespace ObliviousRelay.Text

/-- The value of a run of decimal digits, the empty run being zero. -/
def digitsValue (cs : List Char) : Nat :=
  cs.foldl (fun n c => n * 10 + (c.toNat - 48)) 0

/-- The value of a non-empty run of decimal digits. -/
def natural? (cs : List Char) : Option Nat :=
  if cs.isEmpty || !cs.all isDigit then none else some (digitsValue cs)

/-- An unsigned number below `bound`: decimal digits after at most one plus sign. -/
def unsigned? (bound : Nat) (cs : List Char) : Option Nat :=
  let digits := match cs with
    | '+' :: rest => rest
    | _ => cs
  (natural? digits).filter (· < bound)

/-- The value of a run of digits in `base`, if each character is such a digit. -/
def baseValue? (base : Nat) (cs : List Char) : Option Nat :=
  cs.foldl (fun acc c => acc.bind fun n =>
    (hexValue? c).bind fun d => if d < base then some (n * base + d) else none) (some 0)

end ObliviousRelay.Text
