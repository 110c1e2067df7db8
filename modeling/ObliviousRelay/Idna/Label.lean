import ObliviousRelay.Idna.Data.Properties
import ObliviousRelay.Idna.Mapping
import ObliviousRelay.Idna.Normal

/-!
# Labels of domain names

What a label may be made of: it does not begin with a mark, its joiners stand where they join, and
where a name has characters that run from right to left, each label keeps to one direction.
-/

namespace ObliviousRelay.Idna

/-- The combining marks. -/
def markSpans : Spans := .plain Data.marks

/-- Whether a character is a combining mark. -/
def isMark (c : Char) : Bool := markSpans.contains c

/-- Whether a label begins with a mark. -/
def beginsWithMark : List Char → Bool
  | [] => false
  | c :: _ => isMark c

/-! ## Joiners -/

/-- How a character joins its neighbours. -/
inductive Joining where
  | left
  | right
  | both
  | transparent
  | none
  deriving DecidableEq, Repr

/-- The characters that join. -/
def joiningSpans : Spans := .valued Data.joining

/-- How a character joins. -/
def joiningOf (c : Char) : Joining :=
  match joiningSpans.value? c with
  | some 0 => .left
  | some 1 => .right
  | some 2 => .both
  | some _ => .transparent
  | Option.none => .none

/-- The combining class of the signs that suppress a vowel. -/
def suppressor : Nat := 9

/-- The joiner that keeps two letters apart. -/
def nonJoiner : Char := Char.ofNat 0x200C

/-- The joiner that joins two letters. -/
def joiner : Char := Char.ofNat 0x200D

/-- Whether the first character that is not transparent joins in one of some ways. -/
def meets (ways : List Joining) (cs : List Char) : Bool :=
  match (cs.dropWhile fun c => joiningOf c = .transparent).head? with
  | some c => ways.contains (joiningOf c)
  | Option.none => false

/-- Whether joiners stand where they may, behind characters that were read, the last one first. -/
def joinersFit (before : List Char) : List Char → Bool
  | [] => true
  | c :: rest =>
    let suppressed := before.head?.any (classOf · = suppressor)
    let fits :=
      if c = joiner then suppressed
      else if c = nonJoiner then
        suppressed || (meets [.left, .both] before && meets [.right, .both] rest)
      else true
    fits && joinersFit (c :: before) rest

/-! ## Directions -/

/-- The direction class of a character. -/
inductive Direction where
  | leftToRight
  | rightToLeft
  | arabicLetter
  | arabicNumber
  | europeanNumber
  | europeanSeparator
  | commonSeparator
  | europeanTerminator
  | neutral
  | boundary
  | mark
  | other
  deriving DecidableEq, Repr

/-- The direction class of each value of the table. -/
def directions : List Direction :=
  [.rightToLeft, .arabicLetter, .arabicNumber, .europeanNumber, .europeanSeparator,
    .commonSeparator, .europeanTerminator, .neutral, .boundary, .mark]

/-- The characters that do not run from left to right. -/
def directionSpans : Spans := .valued Data.directions

/-- The direction class of a character. -/
def directionOf (c : Char) : Direction :=
  match directionSpans.value? c with
  | some n => (directions[n]?).getD .other
  | Option.none => .leftToRight

/-- Whether a class makes a name one that runs in two directions. -/
def turns (d : Direction) : Bool :=
  d = .rightToLeft || d = .arabicLetter || d = .arabicNumber

/-- The classes that may stand in any label of such a name. -/
def anywhere : List Direction :=
  [.europeanNumber, .europeanSeparator, .commonSeparator, .europeanTerminator, .neutral, .boundary,
    .mark]

/-- The class of the last character that is no mark. -/
def lastClass? (ds : List Direction) : Option Direction :=
  (ds.reverse.dropWhile (· = .mark)).head?

/-- Whether the characters of a label keep to one direction. -/
def keepsDirection (label : List Char) : Bool :=
  let ds := label.map directionOf
  match ds.head? with
  | Option.none => true
  | some .leftToRight =>
    ds.all (fun d => d = .leftToRight || anywhere.contains d) &&
      (lastClass? ds).any fun d => d = .leftToRight || d = .europeanNumber
  | some first =>
    (first = .rightToLeft || first = .arabicLetter) &&
      ds.all (fun d => turns d || anywhere.contains d) &&
      (lastClass? ds).any (fun d => turns d || d = .europeanNumber) &&
      !(ds.contains .europeanNumber && ds.contains .arabicNumber)

/-! ## Labels -/

/-- Whether a label that was written in ASCII stands for characters that it may stand for: each for
itself, and in composed form. -/
def isStable (label : List Char) : Bool :=
  label.all (fun c => mapChar? c = some [c]) && isComposed label

/-- Whether the characters of a label stand where they may. -/
def isWellFormed (label : List Char) : Bool := !beginsWithMark label && joinersFit [] label

end ObliviousRelay.Idna
