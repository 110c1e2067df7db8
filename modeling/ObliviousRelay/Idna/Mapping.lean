import ObliviousRelay.Idna.Data.Mapping
import ObliviousRelay.Idna.Spans

/-!
# Mapping the characters of domain names

What each character of a domain name stands for: itself, other characters, nothing, or no name.
Letters lose their case, and compatible spellings become the plain one.
-/

namespace ObliviousRelay.Idna

namespace Mapping

/-- The characters that no name holds. -/
def disallowed : Spans := .plain Data.disallowed

/-- The characters that are left out. -/
def ignored : Spans := .plain Data.ignored

/-- Characters at equal steps, each of which stands for one other. -/
structure Run where
  first : Nat
  last : Nat
  step : Nat
  target : Nat
  deriving Inhabited

/-- Reads runs behind a position and a target. -/
def runsFrom (position target : Nat) : List Nat → List Run
  | gap :: size :: distance :: rest =>
    let step := size % 2 + 1
    let first := position + gap
    let last := first + size / 2 * step
    let target := if distance % 2 = 0 then target + distance / 2 else target - (distance + 1) / 2
    ⟨first, last, step, target⟩ :: runsFrom (last + 1) target rest
  | _ => []

/-- The runs of characters that stand for one other each. -/
def runs : Array Run := (runsFrom 0 0 (Text.Packed.numbers Data.runs)).toArray

/-- The spans of the runs, each with its index. -/
def runSpans : Spans := runs.mapIdx fun i r => ⟨r.first, r.last, i⟩

/-- A character, and what it stands for. -/
abbrev Expansion := Nat × List Char

/-- Reads expansions behind a position; `current` is the one whose targets are being read. -/
def expansionsFrom (position : Nat) (current : Option Expansion) : List Nat → List Expansion
  | [] => []
  | n :: rest =>
    match current with
    | none => expansionsFrom (position + n + 1) (some (position + n, [])) rest
    | some (source, targets) =>
      if n = 0 then (source, targets) :: expansionsFrom position none rest
      else expansionsFrom position (some (source, targets ++ [Char.ofNat n])) rest

/-- The characters that stand for several. -/
def expansions : Array Expansion :=
  (expansionsFrom 0 none (Text.Packed.numbers Data.expansions)).toArray

/-- The spans of the expansions, each with its index. -/
def expansionSpans : Spans := expansions.mapIdx fun i e => ⟨e.1, e.1, i⟩

/-- The target of a character in a run; one between the steps stands for itself. -/
def Run.map (r : Run) (c : Char) : Char :=
  if (c.toNat - r.first) % r.step = 0 then Char.ofNat (r.target + (c.toNat - r.first)) else c

/-- What a character that no run and no expansion holds stands for. -/
def plain? (c : Char) : Option (List Char) :=
  if disallowed.contains c then none
  else if ignored.contains c then some []
  else some [c]

end Mapping

open Mapping in
/-- What a character stands for; none if no name holds it. -/
def mapChar? (c : Char) : Option (List Char) :=
  match expansionSpans.value? c with
  | some i => (expansions[i]?).map (·.2)
  | none =>
    match (runSpans.value? c).bind (runs[·]?) with
    | some r =>
      let target := r.map c
      if target = c then plain? c else some [target]
    | none => plain? c

/-- What a text stands for; none if it holds a character that no name holds. -/
def mapText? (cs : List Char) : Option (List Char) :=
  (cs.mapM mapChar?).map List.flatten

end ObliviousRelay.Idna
