import ObliviousRelay.Toml.Lexical

/-!
# Tables under construction

While a document is read, a table remembers how it came to be, for that decides what may still be
added to it: a table that only stands in the path of a header may be opened once by a header of its
own, and one that only stands in a dotted key may grow by further dotted keys.
-/

namespace ObliviousRelay.Toml

open ObliviousRelay.Config (Tree)

/-- How a table came to be. -/
inductive Origin where
  /-- By a header of its own, or as the top of a document or an inline table. -/
  | declared
  /-- As a step in the path of a header. -/
  | implied
  /-- As a step in a dotted key. -/
  | dotted
  deriving DecidableEq, Repr

/-- A value or a table under construction. -/
inductive Node where
  | leaf (t : Tree)
  | branch (origin : Origin) (entries : List (String × Node))
  /-- The tables of one array header. -/
  | series (elements : List (List (String × Node)))

/-- The entries of a table under construction, in order. -/
abbrev Entries := List (String × Node)

namespace Entries

/-- The node of a key. -/
def get? (es : Entries) (key : String) : Option Node := es.lookup key

/-- The entries with another node at a key that is there. -/
def replace (es : Entries) (key : String) (n : Node) : Entries :=
  es.map fun e => if e.1 == key then (key, n) else e

/-- The entries without a key. -/
def remove (es : Entries) (key : String) : Entries :=
  es.filter fun e => !(e.1 == key)

/-- Changes the table at a path, making the tables on the way; `isKey` tells a dotted key from the
path of a header. An array of tables is entered at its last table. -/
def modifyAt (isKey : Bool) (f : Origin → Entries → Option Entries) :
    List String → Origin → Entries → Option Entries
  | [], origin, es => f origin es
  | key :: path, _, es =>
    match es.get? key with
    | none => do
      let origin := if isKey then .dotted else .implied
      let inner ← modifyAt isKey f path origin []
      some (es ++ [(key, .branch origin inner)])
    | some (.leaf _) => none
    | some (.branch origin inner) =>
      if isKey && origin = .declared then none
      else do
        let inner ← modifyAt isKey f path origin inner
        some (es.replace key (.branch origin inner))
    | some (.series elements) => do
      let last ← elements.getLast?
      let last ← modifyAt isKey f path .declared last
      some (es.replace key (.series (elements.dropLast ++ [last])))

/-- Adds a value under a key, dotted by a path. The last step of a dotted key is a table made by
dotted keys, and a plain key belongs to no such table. -/
def add (es : Entries) (path : List String) (key : String) (value : Tree) : Option Entries :=
  modifyAt true (fun origin es =>
    if decide (origin = .dotted) == path.isEmpty || (get? es key).isSome then none
    else some (es ++ [(key, .leaf value)])) path .declared es

/-- Adds a value under the parts of a key. -/
def addKey (es : Entries) (parts : List String) (value : Tree) : Option Entries :=
  match parts.getLast? with
  | some key => es.add parts.dropLast key value
  | none => none

end Entries

mutual

/-- The finished tree of a node. -/
def Node.tree : Node → Tree
  | .leaf t => t
  | .branch _ es => .table (entriesTree es)
  | .series elements => .sequence (seriesTree elements)

/-- The finished entries of a table. -/
def entriesTree : List (String × Node) → List (String × Tree)
  | [] => []
  | (key, n) :: rest => (key, n.tree) :: entriesTree rest

/-- The finished tables of an array. -/
def seriesTree : List (List (String × Node)) → List Tree
  | [] => []
  | es :: rest => .table (entriesTree es) :: seriesTree rest

end

end ObliviousRelay.Toml
