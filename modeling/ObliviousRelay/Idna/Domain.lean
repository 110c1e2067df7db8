import ObliviousRelay.Idna.Label
import ObliviousRelay.Idna.Punycode

/-!
# Domain names in ASCII form

A domain name of any script has one ASCII form: its characters are mapped and composed, and each
label that is not ASCII is written in ASCII behind a mark of its own. Labels that are so written
already are read, to see that they are what would have been written.

- `toAscii?` gives the ASCII form of a name, if it has one. The form may be empty.
-/

namespace ObliviousRelay.Idna

/-- An ASCII character that no domain name of a URL holds. -/
def isForbidden (c : Char) : Bool :=
  c.toNat ≤ 0x20 || c.toNat == 0x7f ||
  ['%', '#', '/', ':', '<', '>', '?', '@', '[', '\\', ']', '^', '|'].contains c

/-- Whether a character is ASCII. -/
def isAscii (c : Char) : Bool := c.toNat < 0x80

/-- What stands before a label that is written in ASCII. -/
def marker : List Char := ['x', 'n', '-', '-']

/-- A label: its characters, and its ASCII form. -/
structure Label where
  characters : List Char
  ascii : List Char
  deriving DecidableEq, Repr

/-- The most characters of a label that is written in ASCII. -/
def maxEncoded : Nat := 1000

/-- The most characters of a label that is read from ASCII, without the marker. -/
def maxDecoded : Nat := 2000

/-- A label that is written in ASCII. -/
def Label.ofMarked? (cs : List Char) : Option Label :=
  let written := cs.drop marker.length
  if maxDecoded < written.length then none
  else match Punycode.decode? written with
    | none => none
    | some label =>
      if label.all isAscii || !isStable label then none else some ⟨label, cs⟩

/-- A label that has been mapped. -/
def Label.ofMapped? (cs : List Char) : Option Label :=
  if marker.isPrefixOf cs then Label.ofMarked? cs
  else if cs.all isAscii then some ⟨cs, cs⟩
  else if maxEncoded < cs.length then none
  else some ⟨cs, marker ++ Punycode.encode cs⟩

/-- Splits a name at its dots. -/
def splitName : List Char → List (List Char)
  | [] => [[]]
  | c :: rest =>
    match splitName rest with
    | [] => [[c]]
    | l :: ls => if c = '.' then [] :: l :: ls else (c :: l) :: ls

/-- Whether labels form a name. -/
def areName (labels : List Label) : Bool :=
  let all := labels.map (·.characters)
  let bothWays := all.any fun cs => cs.any fun c => turns (directionOf c)
  all.all fun cs => !cs.any isForbidden && isWellFormed cs && (!bothWays || keepsDirection cs)

/-- The ASCII form of a name. -/
def toAscii? (name : List Char) : Option (List Char) :=
  match mapText? name with
  | none => none
  | some mapped =>
    match (splitName (compose mapped)).mapM Label.ofMapped? with
    | none => none
    | some labels =>
      if areName labels then some (['.'].intercalate (labels.map (·.ascii))) else none

end ObliviousRelay.Idna
