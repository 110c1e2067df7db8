import ObliviousRelay.Decimal.Shortest

/-!
# Settings trees

The common shape of the two formats that settings are written in: scalars, sequences and tables.
A table keeps its entries in the order in which they are visited.
-/

namespace ObliviousRelay.Config

/-- A tree of settings. -/
inductive Tree where
  | null
  | boolean (b : Bool)
  | integer (n : Int)
  | real (x : Float)
  | text (s : String)
  /-- A date, a time, or both. -/
  | moment
  | sequence (items : List Tree)
  | table (entries : List (String × Tree))
  deriving Inhabited

/-- What stands in a place of a tree, as far as a message describes it. -/
inductive Found where
  | null
  | boolean (b : Bool)
  | integer (n : Int)
  | real (digits : String)
  | text (s : String)
  | sequence
  | table
  deriving DecidableEq, Repr

/-- What a tree is at its root; a moment is described as the table it stands for. -/
def Tree.found : Tree → Found
  | null => .null
  | boolean b => .boolean b
  | integer n => .integer n
  | real x => .real (Decimal.text x)
  | text s => .text s
  | moment => .table
  | sequence _ => .sequence
  | table _ => .table

end ObliviousRelay.Config
