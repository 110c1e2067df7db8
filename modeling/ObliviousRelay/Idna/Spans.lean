import ObliviousRelay.Text.Packed

/-!
# Spans of characters

Properties of characters as spans of code points in order, each with one value. Looking one up is a
search by halves.
-/

namespace ObliviousRelay.Idna

/-- The code points from one to another one, with their value. -/
structure Span where
  first : Nat
  last : Nat
  value : Nat
  deriving DecidableEq, Repr, Inhabited

/-- Spans in order. -/
abbrev Spans := Array Span

namespace Spans

/-- Reads spans without values behind a position: gap, and length less one. -/
def plainFrom (position : Nat) : List Nat → List Span
  | gap :: more :: rest =>
    let first := position + gap
    ⟨first, first + more, 0⟩ :: plainFrom (first + more + 1) rest
  | _ => []

/-- Reads spans with values behind a position: gap, length less one, value. -/
def valuedFrom (position : Nat) : List Nat → List Span
  | gap :: more :: value :: rest =>
    let first := position + gap
    ⟨first, first + more, value⟩ :: valuedFrom (first + more + 1) rest
  | _ => []

/-- Spans without values from packed rows. -/
def plain (rows : List String) : Spans := (plainFrom 0 (Text.Packed.numbers rows)).toArray

/-- Spans with values from packed rows. -/
def valued (rows : List String) : Spans := (valuedFrom 0 (Text.Packed.numbers rows)).toArray

/-- The index of the last span between two indices that does not start behind a code point, or the
lower index. -/
def search (spans : Spans) (n low high : Nat) : Nat :=
  if high ≤ low + 1 then low
  else
    let middle := (low + high) / 2
    if (spans[middle]?).any (·.first ≤ n) then search spans n middle high
    else search spans n low middle
termination_by high - low

/-- The value of a character that lies in one of the spans. -/
def value? (spans : Spans) (c : Char) : Option Nat :=
  match spans[search spans c.toNat 0 spans.size]? with
  | some s => if s.first ≤ c.toNat && c.toNat ≤ s.last then some s.value else none
  | none => none

/-- Whether a character lies in one of the spans. -/
def contains (spans : Spans) (c : Char) : Bool := (value? spans c).isSome

end Spans

end ObliviousRelay.Idna
