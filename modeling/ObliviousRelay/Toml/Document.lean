import ObliviousRelay.Toml.Node
import ObliviousRelay.Toml.Number

/-!
# TOML documents

A document is a sequence of lines: headers, key and value pairs, comments and empty lines. Reading
one gives its top table, with the entries of every table in the order in which they were made.

- `takeValue?` reads a value; arrays and inline tables nest up to the depth limit.
- `Toml.parse?` reads a document, or nothing if any line of it is not well formed.
-/

namespace ObliviousRelay.Toml

open ObliviousRelay.Config (Tree)

/-! ## §1 Values -/

/-- Takes the values of an array up to its closing bracket. -/
def takeItems? (value : Taker Tree) : Nat → Taker (List Tree)
  | 0, _ => none
  | fuel + 1, cs =>
    match skipBetween cs with
    | ']' :: rest => some ([], rest)
    | cs => do
      let (t, rest) ← value cs
      match skipBetween rest with
      | ',' :: rest =>
        let (ts, rest) ← takeItems? value fuel rest
        some (t :: ts, rest)
      | ']' :: rest => some ([t], rest)
      | _ => none

/-- Takes a key, an equals sign and a value. -/
def takePair? (value : Taker Tree) (cs : List Char) : Option ((List String × Tree) × List Char) := do
  let (parts, rest) ← takeKey? cs
  let rest ← takeExact? '=' rest
  let (t, rest) ← value (skipWhitespace rest)
  some ((parts, t), rest)

/-- Takes the pairs of an inline table up to its closing brace. -/
def takePairs? (value : Taker Tree) : Nat → Entries → Taker Entries
  | 0, _, _ => none
  | fuel + 1, es, cs => do
    let ((parts, t), rest) ← takePair? value cs
    let es ← es.addKey parts t
    match skipWhitespace rest with
    | ',' :: rest => takePairs? value fuel es rest
    | '\x7d' :: rest => some (es, rest)
    | _ => none

/-- Takes a scalar. -/
def takeScalar? (cs : List Char) : Option (Tree × List Char) :=
  match cs with
  | '"' :: _ | '\'' :: _ => (takeString? cs).map fun (s, rest) => (.text s, rest)
  | 't' :: 'r' :: 'u' :: 'e' :: rest => some (.boolean true, rest)
  | 'f' :: 'a' :: 'l' :: 's' :: 'e' :: rest => some (.boolean false, rest)
  | _ => if startsDate cs || startsTime cs then takeMoment? cs else takeNumber? cs

/-- Takes a value with at most `depth` levels of arrays and inline tables. -/
def takeValue? : Nat → Taker Tree
  | 0, cs => takeScalar? cs
  | depth + 1, cs =>
    match cs with
    | '[' :: rest =>
      (takeItems? (takeValue? depth) (rest.length + 1) rest).map fun (ts, rest) =>
        (.sequence ts, rest)
    | '\x7b' :: rest =>
      match skipWhitespace rest with
      | '\x7d' :: rest => some (.table [], rest)
      | rest =>
        (takePairs? (takeValue? depth) (rest.length + 1) [] rest).map fun (es, rest) =>
          (.table (entriesTree es), rest)
    | _ => takeScalar? cs

/-! ## §2 Tables -/

/-- A document while it is read: the finished tables, and the one that pairs are added to. -/
structure Draft where
  root : Entries := []
  current : Entries := []
  /-- Where the current table belongs; the top table has no path. -/
  path : List String := []
  /-- Whether the current table is the next of an array. -/
  isElement : Bool := false

namespace Draft

/-- Puts the current table in its place. -/
def close (d : Draft) : Option Entries :=
  match d.path.getLast? with
  | none => some d.current
  | some key =>
    d.root.modifyAt false (fun _ es =>
      if d.isElement then
        match es.get? key with
        | none => some (es ++ [(key, .series [d.current])])
        | some (.series elements) => some (es.replace key (.series (elements ++ [d.current])))
        | some _ => none
      else
        match es.get? key with
        | none => some (es ++ [(key, .branch .declared d.current)])
        | some _ => none) d.path.dropLast .declared

/-- Opens the table of a header. A table that headers have only passed through is opened with what
it holds; any other that is there already may not be opened. -/
def openTable (d : Draft) (path : List String) : Option Draft := do
  let root ← d.close
  let key ← path.getLast?
  let parent := path.dropLast
  -- the tables on the way are made even if the header's own table is refused later
  let root ← root.modifyAt false (fun _ es => some es) parent .declared
  let held ← heldAt root parent key
  let root ← root.modifyAt false (fun _ es => some (es.remove key)) parent .declared
  some { root, current := held, path, isElement := false }
where
  /-- The entries that a header finds in its table. -/
  heldAt (es : Entries) : List String → String → Option Entries
    | [], key =>
      match es.get? key with
      | none => some []
      | some (.branch .implied held) => some held
      | some _ => none
    | step :: path, key =>
      match es.get? step with
      | some (.branch _ inner) => heldAt inner path key
      | some (.series elements) => elements.getLast?.bind fun inner => heldAt inner path key
      | _ => none

/-- Opens the next table of an array header. -/
def openElement (d : Draft) (path : List String) : Option Draft := do
  let root ← d.close
  let key ← path.getLast?
  let root ← root.modifyAt false (fun _ es =>
    match es.get? key with
    | none => some es
    | some (.series _) => some es
    | some _ => none) path.dropLast .declared
  some { root, current := [], path, isElement := true }

end Draft

/-! ## §3 Lines -/

/-- Takes a header. -/
def takeHeader? (d : Draft) (cs : List Char) : Option (Draft × List Char) :=
  match cs with
  | '[' :: '[' :: rest => do
    let (path, rest) ← takeKey? rest
    let rest ← takeExact? ']' rest
    let rest ← takeExact? ']' rest
    some (← d.openElement path, rest)
  | '[' :: rest => do
    let (path, rest) ← takeKey? rest
    let rest ← takeExact? ']' rest
    some (← d.openTable path, rest)
  | _ => none

/-- Takes one line. -/
def takeLine? (d : Draft) (cs : List Char) : Option (Draft × List Char) :=
  match skipWhitespace cs with
  | '#' :: _ | '\n' :: _ | '\r' :: _ | [] => (takeLineTail? cs).map (d, ·)
  | '[' :: rest => do
    let (d, rest) ← takeHeader? d ('[' :: rest)
    some (d, ← takeLineTail? rest)
  | rest => do
    let ((parts, t), rest) ← takePair? (takeValue? (depthLimit - 1)) rest
    let current ← d.current.addKey parts t
    some ({ d with current }, ← takeLineTail? rest)

/-- Takes all lines. -/
def takeLines? : Nat → Draft → List Char → Option Draft
  | 0, _, _ => none
  | _ + 1, d, [] => some d
  | fuel + 1, d, cs => do
    let (d, rest) ← takeLine? d cs
    takeLines? fuel d rest

/-- **Reads a document.** A byte order mark at its start counts for nothing. -/
def parse? (s : String) : Option Tree := do
  let cs := match s.toList with
    | '\ufeff' :: rest => rest
    | cs => cs
  let d ← takeLines? (cs.length + 1) {} cs
  let root ← d.close
  some (.table (entriesTree root))

end ObliviousRelay.Toml
