import ObliviousRelay.Text.Natural

/-!
# Internet addresses

Addresses of both versions with their strict text forms: four decimal numbers without leading zeros,
or eight hexadecimal groups of which one run may be left out and the last two may be written as an
address of version four.

- `Ipv4.take?`, `Ipv6.take?` read an address at the front of a text and give the rest.
- `Ipv4.text`, `Ipv6.text` write the canonical form, in which the longest run of zero groups is left
  out.
-/

namespace ObliviousRelay.Net

/-- An address of version four. -/
structure Ipv4 where
  a : UInt8
  b : UInt8
  c : UInt8
  d : UInt8
  deriving DecidableEq, Repr, Inhabited

/-- An address of version six: eight groups of sixteen bits. -/
structure Ipv6 where
  groups : List UInt16
  length_eq : groups.length = 8
  deriving DecidableEq, Repr

instance : Inhabited Ipv6 := ⟨⟨List.replicate 8 0, rfl⟩⟩

/-- The address with the given groups, if they are eight. -/
def Ipv6.ofGroups? (groups : List UInt16) : Option Ipv6 :=
  if h : groups.length = 8 then some ⟨groups, h⟩ else none

/-! ## §1 Reading -/

/-- A digit of a base up to sixteen. -/
def isDigitOf (base : Nat) (c : Char) : Bool :=
  match Text.hexValue? c with
  | some d => d < base
  | none => false

/-- The value of a run of digits. -/
def digitsIn (base : Nat) (cs : List Char) : Nat :=
  cs.foldl (fun n c => n * base + (Text.hexValue? c).getD 0) 0

/-- Takes the run of digits at the front: not empty, at most `most` long where that is given, below
`bound`, and with leading zeros only where `zeros` allows them. -/
def takeNumber? (base : Nat) (most : Option Nat) (zeros : Bool) (bound : Nat) (cs : List Char) :
    Option (Nat × List Char) :=
  let digits := cs.takeWhile (isDigitOf base)
  let rest := cs.dropWhile (isDigitOf base)
  let value := digitsIn base digits
  if digits.isEmpty then none
  else if most.any (· < digits.length) then none
  else if !zeros && digits.head? == some '0' && 1 < digits.length then none
  else if value < bound then some (value, rest)
  else none

/-- Takes one expected character. -/
def takeChar? (c : Char) : List Char → Option (List Char)
  | [] => none
  | x :: rest => if x = c then some rest else none

/-- Takes a number of at most three digits that fits in eight bits. -/
def takeOctet? (cs : List Char) : Option (UInt8 × List Char) :=
  (takeNumber? 10 (some 3) false 256 cs).map fun (n, rest) => (UInt8.ofNat n, rest)

/-- Takes an address of version four. -/
def Ipv4.take? (cs : List Char) : Option (Ipv4 × List Char) := do
  let (a, cs) ← takeOctet? cs
  let cs ← takeChar? '.' cs
  let (b, cs) ← takeOctet? cs
  let cs ← takeChar? '.' cs
  let (c, cs) ← takeOctet? cs
  let cs ← takeChar? '.' cs
  let (d, cs) ← takeOctet? cs
  some (⟨a, b, c, d⟩, cs)

/-- The two groups that an address of version four stands for. -/
def Ipv4.groups (ip : Ipv4) : List UInt16 :=
  [UInt16.ofNat (ip.a.toNat * 256 + ip.b.toNat), UInt16.ofNat (ip.c.toNat * 256 + ip.d.toNat)]

/-- Takes what separates a group from the ones before it. -/
def takeSeparator? (isFirst : Bool) (cs : List Char) : Option (List Char) :=
  if isFirst then some cs else takeChar? ':' cs

/-- Groups at the front of a text, whether they end in an address of version four, and the rest. -/
structure Run where
  groups : List UInt16
  endsInV4 : Bool
  rest : List Char

/-- Takes up to `limit` groups; with two or more left, an address of version four ends the run. -/
def takeRun (isFirst : Bool) : Nat → List Char → Run
  | 0, cs => ⟨[], false, cs⟩
  | limit + 1, cs =>
    let quad := if 0 < limit then (takeSeparator? isFirst cs).bind Ipv4.take? else none
    match quad with
    | some (ip, rest) => ⟨ip.groups, true, rest⟩
    | none =>
      match (takeSeparator? isFirst cs).bind (takeNumber? 16 (some 4) true 65536) with
      | some (n, rest) =>
        let run := takeRun false limit rest
        ⟨UInt16.ofNat n :: run.groups, run.endsInV4, run.rest⟩
      | none => ⟨[], false, cs⟩

/-- Takes an address of version six. -/
def Ipv6.take? (cs : List Char) : Option (Ipv6 × List Char) :=
  let front := takeRun true 8 cs
  if front.groups.length = 8 then (ofGroups? front.groups).map (·, front.rest)
  else if front.endsInV4 then none
  else do
    let cs ← takeChar? ':' front.rest
    let cs ← takeChar? ':' cs
    let back := takeRun true (7 - front.groups.length) cs
    let gap := 8 - front.groups.length - back.groups.length
    let ip ← ofGroups? (front.groups ++ List.replicate gap 0 ++ back.groups)
    some (ip, back.rest)

/-- Reads a whole text as an address of version four. -/
def Ipv4.parse? (cs : List Char) : Option Ipv4 :=
  match take? cs with
  | some (ip, []) => some ip
  | _ => none

/-- Reads a whole text as an address of version six. -/
def Ipv6.parse? (cs : List Char) : Option Ipv6 :=
  match take? cs with
  | some (ip, []) => some ip
  | _ => none

/-! ## §2 Writing -/

/-- The canonical text of an address of version four. -/
def Ipv4.text (ip : Ipv4) : String :=
  toString ip.a.toNat ++ "." ++ toString ip.b.toNat ++ "." ++ toString ip.c.toNat ++ "." ++
    toString ip.d.toNat

/-- A group without leading zeros. -/
def groupText (g : UInt16) : String := String.ofList (Nat.toDigits 16 g.toNat)

/-- Groups joined by colons. -/
def groupsText (gs : List UInt16) : String := ":".intercalate (gs.map groupText)

/-- The length of the run of zeros at the front. -/
def zeroRun (gs : List UInt16) : Nat := (gs.takeWhile (· = 0)).length

/-- The start and length of the first of the longest runs of zeros. -/
def longestZeros : List UInt16 → Nat → Nat × Nat
  | [], i => (i, 0)
  | g :: gs, i =>
    let here := zeroRun (g :: gs)
    let (start, length) := longestZeros gs (i + 1)
    if length ≤ here then (i, here) else (start, length)

/-- Groups with the longest run of at least two zeros left out. -/
def Ipv6.compressed (ip : Ipv6) : String :=
  let (start, length) := longestZeros ip.groups 0
  if length < 2 then groupsText ip.groups
  else groupsText (ip.groups.take start) ++ "::" ++ groupsText (ip.groups.drop (start + length))

/-- The canonical text of an address of version six; one that stands for an address of version four
shows that address. -/
def Ipv6.text (ip : Ipv6) : String :=
  match ip.groups with
  | [0, 0, 0, 0, 0, 0xffff, x, y] =>
    "::ffff:" ++ Ipv4.text ⟨UInt8.ofNat (x.toNat / 256), UInt8.ofNat x.toNat,
      UInt8.ofNat (y.toNat / 256), UInt8.ofNat y.toNat⟩
  | _ => ip.compressed

end ObliviousRelay.Net
