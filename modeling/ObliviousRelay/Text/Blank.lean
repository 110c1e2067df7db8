/-!
# Blank characters

The Unicode property *White_Space* and trimming by it.

- `isBlank` is the property: 25 characters, ASCII and not.
- `trim` drops the blank characters at both ends of a text and nothing else.
-/

namespace ObliviousRelay.Text

/-- A character of the Unicode property White_Space. -/
def isBlank (c : Char) : Bool :=
  let n := c.toNat
  (0x09 ≤ n && n ≤ 0x0d) || n == 0x20 || n == 0x85 || n == 0xa0 || n == 0x1680 ||
  (0x2000 ≤ n && n ≤ 0x200a) || n == 0x2028 || n == 0x2029 || n == 0x202f || n == 0x205f ||
  n == 0x3000

/-- The characters from the first one that is not blank on. -/
def dropBlank (cs : List Char) : List Char :=
  cs.dropWhile isBlank

/-- The characters up to the last one that is not blank. -/
def dropBlankEnd (cs : List Char) : List Char :=
  (dropBlank cs.reverse).reverse

/-- A text without the blank characters at its ends. -/
def trimChars (cs : List Char) : List Char :=
  dropBlankEnd (dropBlank cs)

/-- A text without the blank characters at its ends. -/
def trim (s : String) : String :=
  String.ofList (trimChars s.toList)

end ObliviousRelay.Text
