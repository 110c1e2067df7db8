/-!
# Shortest decimal text of a binary fraction

A finite double is a value `m · 2^q`. Every decimal between the midpoints to its neighbours reads
back as that double, the midpoints themselves exactly when `m` is even. Written are the fewest
significant digits of such a decimal, and of those the digits nearest to the value.

- `shortestDigits` finds the digits and the place of the decimal point.
- `positional` writes them without an exponent, with a fractional part at least of `.0`.
-/

namespace ObliviousRelay.Decimal

/-- The value `mantissa · 2^exponent` of a finite double without its sign. -/
structure Binary where
  mantissa : Nat
  exponent : Int
  deriving DecidableEq, Repr

/-- The parts of a finite double from its bits. -/
def Binary.ofBits (bits : Nat) : Binary :=
  let fraction : Nat := bits % Nat.pow 2 52
  let power : Nat := bits / Nat.pow 2 52 % Nat.pow 2 11
  if power = 0 then ⟨fraction, -1074⟩ else ⟨Nat.pow 2 52 + fraction, (power : Int) - 1075⟩

/-- Significant digits, read as `0.d₁d₂… · 10^point`. -/
structure Digits where
  digits : List Nat
  point : Int
  deriving DecidableEq, Repr

/-- The decimal digits of a number, the first not zero. -/
def digitsOf (n : Nat) : List Nat :=
  (Nat.toDigits 10 n).map (fun c => c.toNat - 48)

/-- The least `k ≤ fuel` with `numerator < denominator · 10^k`. -/
def decimalOrder (numerator denominator : Nat) : Nat → Nat
  | 0 => 0
  | fuel + 1 =>
    if numerator < denominator then 0 else decimalOrder numerator (denominator * 10) fuel + 1

/-- The number of zeros between the point and the first digit of `numerator / denominator`. -/
def leadingZeros (numerator denominator : Nat) : Nat → Nat
  | 0 => 0
  | fuel + 1 =>
    if denominator ≤ numerator * 10 then 0 else leadingZeros (numerator * 10) denominator fuel + 1

/-- The decimal with `n` significant digits nearest to the value among those that read back. -/
def ofLength? (low value high scale : Nat) (closed : Bool) (order : Int) (n : Nat) : Option Nat :=
  -- a digit string `d` stands for `d · step / unit`, compared with `value / scale`
  let step := scale * Nat.pow 10 (order - n).toNat
  let unit := Nat.pow 10 ((n : Int) - order).toNat
  let inside := fun d =>
    let x := d * step
    if closed then low * unit ≤ x ∧ x ≤ high * unit else low * unit < x ∧ x < high * unit
  let below := value * unit / step
  let above := below + 1
  let isNearBelow := value * unit - below * step ≤ above * step - value * unit
  match decide (inside below), decide (inside above) with
  | true, true => some (if isNearBelow then below else above)
  | true, false => some below
  | false, true => some above
  | false, false => none

/-- The first length in `n, n + 1, …` at which a decimal reads back, with that decimal. -/
def searchLength (f : Nat → Option Nat) (n : Nat) : Nat → Option (Nat × Nat)
  | 0 => none
  | fuel + 1 =>
    match f n with
    | some d => some (n, d)
    | none => searchLength f (n + 1) fuel

/-- The shortest digits of a positive double. -/
def shortestDigits (b : Binary) : Digits :=
  let up := Nat.pow 2 b.exponent.toNat
  let scale := 4 * Nat.pow 2 (-b.exponent).toNat
  let value := 4 * b.mantissa * up
  let isEdge := b.mantissa = Nat.pow 2 52 ∧ -1074 < b.exponent
  let low := (4 * b.mantissa - (if isEdge then 1 else 2)) * up
  let high := (4 * b.mantissa + 2) * up
  let order : Int :=
    if scale ≤ value then decimalOrder value scale 400 else -(leadingZeros value scale 400 : Int)
  let search := searchLength (ofLength? low value high scale (b.mantissa % 2 = 0) order) 1 17
  let (length, found) := search.getD (1, 0)
  let ds := digitsOf found
  let kept := (ds.reverse.dropWhile (· = 0)).reverse
  -- rounding up to the next power of ten moves the point
  ⟨kept, order + ((ds.length : Int) - (length : Int))⟩

/-- Digits written without an exponent and with a decimal point. -/
def positional (d : Digits) : String :=
  let text := fun (ds : List Nat) => String.ofList (ds.map fun n => Char.ofNat (48 + n))
  if d.point ≤ 0 then
    "0." ++ text (List.replicate (-d.point).toNat 0 ++ d.digits)
  else
    let place := d.point.toNat
    let whole := d.digits.take place
    let rest := d.digits.drop place
    text (whole ++ List.replicate (place - d.digits.length) 0) ++ "." ++
      (if rest.isEmpty then "0" else text rest)

/-- A double as text: its shortest digits in positional form, or the name of what is no number. -/
def text (x : Float) : String :=
  if x.isNaN then "NaN"
  else
    let bits := x.toBits.toNat
    let sign := if bits / Nat.pow 2 63 = 1 then "-" else ""
    if x.isInf then sign ++ "inf"
    else
      let b := Binary.ofBits (bits % Nat.pow 2 63)
      if b.mantissa = 0 then sign ++ "0.0" else sign ++ positional (shortestDigits b)

end ObliviousRelay.Decimal
