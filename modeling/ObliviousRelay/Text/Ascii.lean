/-!
# ASCII classes

Letter case, digits and hexadecimal digits of the ASCII range. Characters outside it are left
alone by `lower` and belong to none of the classes.
-/

namespace ObliviousRelay.Text

/-- A capital ASCII letter. -/
def isUpper (c : Char) : Bool := 'A' ≤ c && c ≤ 'Z'

/-- A small ASCII letter. -/
def isLower (c : Char) : Bool := 'a' ≤ c && c ≤ 'z'

/-- An ASCII letter. -/
def isLetter (c : Char) : Bool := isUpper c || isLower c

/-- An ASCII decimal digit. -/
def isDigit (c : Char) : Bool := '0' ≤ c && c ≤ '9'

/-- An ASCII letter or digit. -/
def isAlphanumeric (c : Char) : Bool := isLetter c || isDigit c

/-- The small form of an ASCII letter, and any other character itself. -/
def lower (c : Char) : Char :=
  if isUpper c then Char.ofNat (c.toNat + 32) else c

/-- A text with its ASCII letters in their small form. -/
def lowerCase (s : String) : String :=
  String.ofList (s.toList.map lower)

/-- Two texts that are equal up to the case of ASCII letters. -/
def sameLetters (a b : List Char) : Bool :=
  a.map lower == b.map lower

/-- The value of a hexadecimal digit of either case. -/
def hexValue? (c : Char) : Option Nat :=
  if isDigit c then some (c.toNat - 48)
  else if 'a' ≤ c && c ≤ 'f' then some (c.toNat - 87)
  else if 'A' ≤ c && c ≤ 'F' then some (c.toNat - 55)
  else none

/-- A hexadecimal digit of either case. -/
def isHex (c : Char) : Bool := (hexValue? c).isSome

/-- The small hexadecimal digit of a value below 16. -/
def hexDigit (n : Nat) : Char :=
  if n < 10 then Char.ofNat (48 + n) else Char.ofNat (87 + n)

/-- The capital hexadecimal digit of a value below 16. -/
def hexDigitCapital (n : Nat) : Char :=
  if n < 10 then Char.ofNat (48 + n) else Char.ofNat (55 + n)

/-- A byte as two small hexadecimal digits. -/
def hexByte (b : UInt8) : String :=
  String.ofList [hexDigit (b.toNat / 16), hexDigit (b.toNat % 16)]

end ObliviousRelay.Text
