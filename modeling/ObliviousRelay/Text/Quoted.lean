import ObliviousRelay.Text.Ascii

/-!
# Quoted text

A text between double quotes, as messages show a value that was given: quotes, backslashes and line
ends are escaped, and a character that cannot be printed is written by its number.
-/

namespace ObliviousRelay.Text

/-- The hexadecimal digits of a number, without leading zeros. -/
def hexText (n : Nat) : String := String.ofList (Nat.toDigits 16 n)

/-- A character that cannot be printed: controls, formats, blanks other than the space, private use. -/
def isUnprintable (c : Char) : Bool :=
  let n := c.toNat
  n < 0x20 || (0x7f ≤ n && n ≤ 0xa0) || n == 0xad || n == 0x1680 || n == 0x180e || n == 0x61c ||
  (0x600 ≤ n && n ≤ 0x605) || n == 0x6dd || n == 0x70f || (0x2000 ≤ n && n ≤ 0x200f) ||
  (0x2028 ≤ n && n ≤ 0x202f) || (0x205f ≤ n && n ≤ 0x206f) || n == 0x3000 ||
  (0xe000 ≤ n && n ≤ 0xf8ff) || n == 0xfeff || (0xfff9 ≤ n && n ≤ 0xfffb) || n == 0xfffe ||
  n == 0xffff || 0xe0000 ≤ n

/-- A character that only modifies the one before it. -/
def isCombining (c : Char) : Bool :=
  let n := c.toNat
  (0x300 ≤ n && n ≤ 0x36f) || (0x483 ≤ n && n ≤ 0x489) || (0x591 ≤ n && n ≤ 0x5bd) ||
  (0x610 ≤ n && n ≤ 0x61a) || (0x64b ≤ n && n ≤ 0x65f) || (0x1ab0 ≤ n && n ≤ 0x1ace) ||
  (0x1dc0 ≤ n && n ≤ 0x1dff) || (0x20d0 ≤ n && n ≤ 0x20f0) || (0x302a ≤ n && n ≤ 0x302f) ||
  n == 0x3099 || n == 0x309a || (0xfe00 ≤ n && n ≤ 0xfe0f) || (0xfe20 ≤ n && n ≤ 0xfe2f)

/-- One character inside double quotes. -/
def quoteChar (c : Char) : String :=
  match c with
  | '"' => "\\\""
  | '\\' => "\\\\"
  | '\n' => "\\n"
  | '\r' => "\\r"
  | '\t' => "\\t"
  | '\x00' => "\\0"
  | c =>
    if isUnprintable c || isCombining c then "\\u\x7b" ++ hexText c.toNat ++ "\x7d"
    else String.singleton c

/-- A text between double quotes, escaped. -/
def quote (s : String) : String :=
  "\"" ++ String.join (s.toList.map quoteChar) ++ "\""

end ObliviousRelay.Text
