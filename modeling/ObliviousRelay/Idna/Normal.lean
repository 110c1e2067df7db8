import ObliviousRelay.Idna.Data.Properties
import ObliviousRelay.Idna.Spans

/-!
# Composed form

Texts that look the same have one composed form: characters are taken apart, their marks are put in
order of class, and then every mark that can join its base does.

- `compose` brings a text to its composed form, `isComposed` tells whether it has it.
-/

namespace ObliviousRelay.Idna

/-- The combining classes that are not zero. -/
def classSpans : Spans := .valued Data.classes

/-- The combining class of a character. -/
def classOf (c : Char) : Nat := (classSpans.value? c).getD 0

/-- A composed character with its two parts. -/
structure Composite where
  whole : Nat
  base : Nat
  mark : Nat
  deriving Inhabited

/-- Reads composed characters behind a position. -/
def compositesFrom (position : Nat) : List Nat → List Composite
  | gap :: distance :: mark :: rest =>
    let whole := position + gap
    let base := if distance % 2 = 0 then whole + distance / 2 else whole - (distance + 1) / 2
    ⟨whole, base, mark⟩ :: compositesFrom (whole + 1) rest
  | _ => []

/-- The composed characters, in order. -/
def composites : Array Composite :=
  (compositesFrom 0 (Text.Packed.numbers Data.composites)).toArray

/-- The spans of the composed characters, each with its index. -/
def compositeSpans : Spans := composites.mapIdx fun i c => ⟨c.whole, c.whole, i⟩

/-! ## Korean syllables -/

/-- The first syllable, and the first letters of its three parts less what counts from one. -/
def firstSyllable : Nat := 0xAC00

/-- The first leading consonant, and how many there are. -/
def firstLead : Nat := 0x1100

/-- The first vowel. -/
def firstVowel : Nat := 0x1161

/-- What stands before the first trailing consonant. -/
def noTrail : Nat := 0x11A7

/-- The number of leading consonants. -/
def leads : Nat := 19

/-- The number of vowels. -/
def vowels : Nat := 21

/-- The number of trailing consonants, and one for none. -/
def trails : Nat := 28

/-- The parts of a syllable. -/
def syllableParts? (c : Char) : Option (List Char) :=
  let n := c.toNat - firstSyllable
  if firstSyllable ≤ c.toNat && n < leads * vowels * trails then
    let trail := n % trails
    some ([Char.ofNat (firstLead + n / (vowels * trails)),
      Char.ofNat (firstVowel + n / trails % vowels)] ++
      if trail = 0 then [] else [Char.ofNat (noTrail + trail)])
  else none

/-- The syllable of two parts. -/
def syllable? (a b : Char) : Option Char :=
  let lead := a.toNat - firstLead
  let vowel := b.toNat - firstVowel
  let open_ := a.toNat - firstSyllable
  let trail := b.toNat - noTrail
  if firstLead ≤ a.toNat && lead < leads && firstVowel ≤ b.toNat && vowel < vowels then
    some (Char.ofNat (firstSyllable + (lead * vowels + vowel) * trails))
  else if firstSyllable ≤ a.toNat && open_ < leads * vowels * trails && open_ % trails = 0 &&
      noTrail < b.toNat && trail < trails then
    some (Char.ofNat (a.toNat + trail))
  else none

/-! ## Composed form -/

/-- The two parts of a composed character. -/
def parts? (c : Char) : Option (Char × Char) :=
  ((compositeSpans.value? c).bind (composites[·]?)).map fun p =>
    (Char.ofNat p.base, Char.ofNat p.mark)

/-- The character composed of two. -/
def compose? (a b : Char) : Option Char :=
  match syllable? a b with
  | some c => some c
  | none => (composites.find? fun p => p.base = a.toNat && p.mark = b.toNat).map fun p =>
      Char.ofNat p.whole

/-- How often a character can be taken apart. -/
def depth : Nat := 4

/-- Takes a character apart, as often as it has parts. -/
def takeApart : Nat → Char → List Char
  | 0, c => [c]
  | n + 1, c =>
    match syllableParts? c with
    | some cs => cs
    | none =>
      match parts? c with
      | some (a, b) => takeApart n a ++ [b]
      | none => [c]

/-- Puts a character before ordered ones; a mark goes behind the marks of lower classes. -/
def insertMark (c : Char) : List Char → List Char
  | [] => [c]
  | d :: rest =>
    if 0 < classOf d && classOf d < classOf c then d :: insertMark c rest else c :: d :: rest

/-- Puts marks in the order of their classes. -/
def order (cs : List Char) : List Char := cs.foldr insertMark []

/-- Joins marks to a base, behind which some marks were kept. -/
def joinFrom (base : Char) (kept : List Char) : List Char → List Char
  | [] => base :: kept.reverse
  | c :: rest =>
    let blocked := match kept with
      | [] => false
      | d :: _ => classOf c ≤ classOf d
    match if blocked then none else compose? base c with
    | some whole => joinFrom whole kept rest
    | none =>
      if classOf c = 0 then base :: kept.reverse ++ joinFrom c [] rest
      else joinFrom base (c :: kept) rest

/-- Joins marks to their bases. -/
def join : List Char → List Char
  | [] => []
  | c :: rest => if classOf c = 0 then joinFrom c [] rest else c :: join rest

/-- The composed form of a text. -/
def compose (cs : List Char) : List Char := join (order (cs.flatMap (takeApart depth)))

/-- Whether a text is in its composed form. -/
def isComposed (cs : List Char) : Bool := compose cs == cs

end ObliviousRelay.Idna
