import ObliviousRelay.Text.Ascii

/-!
# Labels in ASCII

A label with other characters is written as its ASCII characters, a hyphen, and a run of digits that
tells which characters to insert and where. The digits of a number are in base 36; how many a number
takes adapts to the numbers before it.

- `Punycode.encode` writes a label, `Punycode.decode?` reads one.
-/

namespace ObliviousRelay.Idna.Punycode

/-! ## Digits -/

/-- The digit of a value below 36. -/
def digit (n : Nat) : Char :=
  if n < 26 then Char.ofNat (97 + n) else Char.ofNat (22 + n)

/-- The value of a digit. -/
def digitValue? (c : Char) : Option Nat :=
  if Text.isLower c then some (c.toNat - 97)
  else if Text.isUpper c then some (c.toNat - 65)
  else if Text.isDigit c then some (c.toNat - 22)
  else none

/-- The least value of a last digit at a position. -/
def threshold (position bias : Nat) : Nat :=
  if position ≤ bias + 1 then 1 else if bias + 26 ≤ position then 26 else position - bias

/-- A last digit has a value of its own at every position. -/
theorem threshold_pos (position bias : Nat) : 0 < threshold position bias := by
  unfold threshold
  split
  · omega
  · split <;> omega

/-- Halves what a bias is made of until it is small enough, and counts the position up. -/
def settle (delta position : Nat) : Nat :=
  if h : 455 < delta then settle (delta / 35) (position + 36)
  else position + 36 * delta / (delta + 38)
termination_by delta
decreasing_by omega

/-- The bias after a number, for a label of so many characters. -/
def adapt (delta size : Nat) (isFirst : Bool) : Nat :=
  let delta := if isFirst then delta / 700 else delta / 2
  settle (delta + delta / size) 0

/-- The bias at the beginning. -/
def firstBias : Nat := 72

/-- The first character that is not ASCII. -/
def firstInserted : Nat := 128

/-- The digits of a number. -/
def digits (n position bias : Nat) : List Char :=
  let t := threshold position bias
  if h : n < t then [digit n]
  else digit (t + (n - t) % (36 - t)) :: digits ((n - t) / (36 - t)) (position + 36) bias
termination_by n
decreasing_by
  have := threshold_pos position bias
  exact Nat.lt_of_le_of_lt (Nat.div_le_self _ _) (by omega)

/-! ## Writing -/

/-- What has been written: the number that counts on, the bias, how many characters are placed, and
the digits. -/
structure Writing where
  delta : Nat := 0
  bias : Nat := firstBias
  placed : Nat
  text : List Char := []

/-- Passes one character of the label while those of a code point are written. -/
def pass (codePoint : Nat) (basic : Nat) (w : Writing) (c : Char) : Writing :=
  if c.toNat < codePoint then { w with delta := w.delta + 1 }
  else if c.toNat = codePoint then
    { delta := 0
      bias := adapt w.delta (w.placed + 1) (w.placed = basic)
      placed := w.placed + 1
      text := w.text ++ digits w.delta 36 w.bias }
  else w

/-- Writes all characters of a code point, after those of the one before it. -/
def writeCodePoint (label : List Char) (basic : Nat) (state : Writing × Nat) (codePoint : Nat) :
    Writing × Nat :=
  let (w, before) := state
  let w := { w with delta := w.delta + (codePoint - before) * (w.placed + 1) }
  let w := label.foldl (pass codePoint basic) w
  ({ w with delta := w.delta + 1 }, codePoint + 1)

/-- The code points that are not ASCII, in order, once each. -/
def insertedCodePoints (label : List Char) : List Nat :=
  (((label.map Char.toNat).filter (firstInserted ≤ ·)).mergeSort (· ≤ ·)).eraseDups

/-- Writes a label. -/
def encode (label : List Char) : List Char :=
  let basic := label.filter fun c => c.toNat < firstInserted
  let start : Writing := { placed := basic.length }
  let (w, _) := (insertedCodePoints label).foldl (writeCodePoint label basic.length)
    (start, firstInserted)
  basic ++ (if basic.isEmpty then [] else ['-']) ++ w.text

/-! ## Reading -/

/-- What has been read: the label so far, the next code point, where it goes, the bias; and of the
number that is being read its beginning, its weight and its position. -/
structure Reading where
  label : List Char
  codePoint : Nat := firstInserted
  place : Nat := 0
  bias : Nat := firstBias
  start : Nat := 0
  weight : Nat := 1
  position : Nat := 36

/-- Numbers are words of 32 bits. -/
def wordBound : Nat := Nat.pow 2 32

/-- The character of a code point that may be inserted. -/
def inserted? (n : Nat) : Option Char :=
  if n.isValidChar && firstInserted ≤ n then some (Char.ofNat n) else none

/-- Inserts the character that a number tells. -/
def insert? (r : Reading) : Option Reading :=
  let size := r.label.length + 1
  let codePoint := r.codePoint + r.place / size
  let place := r.place % size
  (inserted? codePoint).map fun c => {
    label := r.label.take place ++ c :: r.label.drop place
    codePoint
    place := place + 1
    bias := adapt (r.place - r.start) size (r.start = 0)
    start := place + 1 }

/-- Reads one digit. -/
def readDigit? (r : Reading) (c : Char) : Option Reading :=
  match digitValue? c with
  | none => none
  | some d =>
    let place := r.place + d * r.weight
    if wordBound ≤ place then none
    else
      let t := threshold r.position r.bias
      if d < t then insert? { r with place }
      else
        let weight := r.weight * (36 - t)
        if wordBound ≤ weight then none
        else some { r with place, weight, position := r.position + 36 }

/-- The part of a label before its last hyphen, and the part after it. -/
def splitLabel (cs : List Char) : List Char × List Char :=
  let last := (cs.reverse.takeWhile (· ≠ '-')).reverse
  (cs.take (cs.length - last.length - 1), last)

/-- Reads a label. -/
def decode? (cs : List Char) : Option (List Char) :=
  let (basic, rest) := splitLabel cs
  if basic.all fun c => c.toNat < firstInserted then
    match rest.foldlM readDigit? { label := basic } with
    | some r => if r.position = 36 then some r.label else none
    | none => none
  else none

end ObliviousRelay.Idna.Punycode
