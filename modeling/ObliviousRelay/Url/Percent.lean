import ObliviousRelay.Text.Ascii

/-!
# Percent-encoding

A character that may not stand in a component of a URL is written as the bytes of its UTF-8 form,
each as a percent sign and two capital hexadecimal digits. Which characters those are depends on the
component; all that are not ASCII and all controls are among them everywhere.

Decoding turns each percent sign before two hexadecimal digits into the byte they name, and leaves
every other one alone.
-/

namespace ObliviousRelay.Url

/-- A set of characters that a component does not hold as they are. -/
abbrev EncodeSet := Char → Bool

/-- Controls, and all that is not ASCII. -/
def controlSet : EncodeSet := fun c => c.toNat < 0x20 || 0x7f ≤ c.toNat

/-- The set of a fragment. -/
def fragmentSet : EncodeSet := fun c => controlSet c || [' ', '"', '<', '>', '`'].contains c

/-- The set of a path. -/
def pathSet : EncodeSet := fun c => fragmentSet c || ['#', '?', '\x7b', '\x7d'].contains c

/-- The set of a user name or password. -/
def userinfoSet : EncodeSet := fun c =>
  pathSet c || ['/', ':', ';', '=', '@', '[', '\\', ']', '^', '|'].contains c

/-- The set of a query. -/
def querySet : EncodeSet := fun c => controlSet c || [' ', '"', '#', '<', '>'].contains c

/-- The set of a query of a special scheme. -/
def specialQuerySet : EncodeSet := fun c => querySet c || c == '\''

/-- A byte as a percent sign and two capital hexadecimal digits. -/
def percentByte (b : UInt8) : List Char :=
  ['%', Text.hexDigitCapital (b.toNat / 16), Text.hexDigitCapital (b.toNat % 16)]

/-- A character as it stands in a component. -/
def encodeChar (set : EncodeSet) (c : Char) : List Char :=
  if set c then (String.singleton c).toUTF8.toList.flatMap percentByte else [c]

/-- A text as it stands in a component. -/
def percentEncode (set : EncodeSet) (cs : List Char) : List Char :=
  cs.flatMap (encodeChar set)

/-- The bytes of a text in which percent signs name bytes. -/
def percentDecode : List UInt8 → List UInt8
  | 0x25 :: x :: y :: rest =>
    match Text.hexValue? (Char.ofNat x.toNat), Text.hexValue? (Char.ofNat y.toNat) with
    | some h, some l => UInt8.ofNat (16 * h + l) :: percentDecode rest
    | _, _ => 0x25 :: percentDecode (x :: y :: rest)
  | b :: rest => b :: percentDecode rest
  | [] => []

end ObliviousRelay.Url
