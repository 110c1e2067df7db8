import ObliviousRelay.Config.Tree
import ObliviousRelay.Text.Natural

/-!
# Lexical rules of TOML

Blanks, comments, line ends, strings and keys. A reader takes what it reads from the front of a
text and gives the rest, or fails; nothing is skipped that the format does not allow.
-/

namespace ObliviousRelay.Toml

open ObliviousRelay.Config (Tree)

/-- Takes something from the front of a text. -/
abbrev Taker (α : Type) := List Char → Option (α × List Char)

/-! ## §1 Blanks and line ends -/

/-- A space or a tab. -/
def isWhitespace (c : Char) : Bool := c == ' ' || c == '\t'

/-- The text after its leading spaces and tabs. -/
def skipWhitespace (cs : List Char) : List Char := cs.dropWhile isWhitespace

/-- A character of a comment. -/
def isCommentChar (c : Char) : Bool := c == '\t' || (0x20 ≤ c.toNat && c.toNat != 0x7f)

/-- Takes a line end. -/
def takeLineEnd? : List Char → Option (List Char)
  | '\n' :: rest => some rest
  | '\r' :: '\n' :: rest => some rest
  | _ => none

/-- The text after a comment, if one begins here. -/
def skipComment (cs : List Char) : List Char :=
  match cs with
  | '#' :: rest => rest.dropWhile isCommentChar
  | _ => cs

/-- The text after what may end a line: blanks, a comment, and the line end or the end of all. -/
def takeLineTail? (cs : List Char) : Option (List Char) :=
  match skipComment (skipWhitespace cs) with
  | [] => some []
  | rest => takeLineEnd? rest

/-- The text after blanks, comments and line ends. -/
def skipLines : Nat → List Char → List Char
  | 0, cs => cs
  | fuel + 1, cs =>
    let rest := skipComment (skipWhitespace cs)
    match takeLineEnd? rest with
    | some next => skipLines fuel next
    | none => rest

/-- The text after blanks, comments and line ends. -/
def skipBetween (cs : List Char) : List Char := skipLines cs.length cs

/-! ## §2 Strings -/

/-- A character that stands for itself in a string: a tab, or anything but controls. -/
def isStringChar (c : Char) : Bool := c == '\t' || (0x20 ≤ c.toNat && c.toNat != 0x7f)

/-- The character with a number, if there is one. -/
def charOf? (n : Nat) : Option Char :=
  if h : n.isValidChar then some (Char.ofNatAux n h) else none

/-- Takes a character by its number in exactly `count` hexadecimal digits. -/
def takeCodePoint? (count : Nat) : Taker Char := fun cs =>
  let digits := cs.take count
  if digits.length = count then
    (Text.baseValue? 16 digits).bind fun n => (charOf? n).map (·, cs.drop count)
  else none

/-- Takes what follows the backslash of an escape. -/
def takeEscape? : Taker Char
  | 'b' :: rest => some ('\x08', rest)
  | 't' :: rest => some ('\t', rest)
  | 'n' :: rest => some ('\n', rest)
  | 'f' :: rest => some ('\x0c', rest)
  | 'r' :: rest => some ('\r', rest)
  | '"' :: rest => some ('"', rest)
  | '\\' :: rest => some ('\\', rest)
  | 'u' :: rest => takeCodePoint? 4 rest
  | 'U' :: rest => takeCodePoint? 8 rest
  | _ => none

/-- Takes a string up to its closing quotation mark. -/
def takeBasic? : Nat → Taker (List Char)
  | 0, _ => none
  | fuel + 1, cs =>
    match cs with
    | '"' :: rest => some ([], rest)
    | '\\' :: rest => do
      let (c, rest) ← takeEscape? rest
      let (s, rest) ← takeBasic? fuel rest
      some (c :: s, rest)
    | c :: rest =>
      if isStringChar c then (takeBasic? fuel rest).map fun (s, rest) => (c :: s, rest) else none
    | [] => none

/-- Takes a literal string up to its closing apostrophe. -/
def takeLiteral? (cs : List Char) : Option (List Char × List Char) :=
  let inside := fun c => isStringChar c && c != '\''
  match cs.dropWhile inside with
  | '\'' :: rest => some (cs.takeWhile inside, rest)
  | _ => none

/-- The text after the line end that may follow an opening delimiter. -/
def skipFirstLineEnd (cs : List Char) : List Char := (takeLineEnd? cs).getD cs

/-- Takes the quotation marks at the end of a multi-line string: three close it, and one or two
before those belong to it. Fewer than three are part of the string. -/
def takeQuotes (quote : Char) (cs : List Char) : List Char × Option (List Char) :=
  let run := (cs.takeWhile (· = quote)).length
  if run < 3 then (List.replicate run quote, none)
  else
    let inside := min (run - 3) 2
    (List.replicate inside quote, some (cs.drop (inside + 3)))

/-- The text after a backslash at the end of a line: the line end and all blanks after it. -/
def skipFolded? (cs : List Char) : Option (List Char) :=
  (takeLineEnd? (skipWhitespace cs)).map fun rest =>
    rest.dropWhile fun c => isWhitespace c || c == '\n' || c == '\r'

/-- Takes a multi-line string up to its three closing quotation marks. -/
def takeMultiBasic? : Nat → Taker (List Char)
  | 0, _ => none
  | fuel + 1, cs =>
    match cs with
    | '"' :: _ =>
      match takeQuotes '"' cs with
      | (s, some rest) => some (s, rest)
      | (s, none) =>
        (takeMultiBasic? fuel (cs.drop s.length)).map fun (t, rest) => (s ++ t, rest)
    | '\\' :: rest =>
      match skipFolded? rest with
      | some rest => takeMultiBasic? fuel rest
      | none => do
        let (c, rest) ← takeEscape? rest
        let (s, rest) ← takeMultiBasic? fuel rest
        some (c :: s, rest)
    | c :: rest =>
      match takeLineEnd? cs with
      | some rest => (takeMultiBasic? fuel rest).map fun (s, rest) => ('\n' :: s, rest)
      | none =>
        if isStringChar c then (takeMultiBasic? fuel rest).map fun (s, rest) => (c :: s, rest)
        else none
    | [] => none

/-- Takes a multi-line literal string up to its three closing apostrophes. -/
def takeMultiLiteral? : Nat → Taker (List Char)
  | 0, _ => none
  | fuel + 1, cs =>
    match cs with
    | '\'' :: _ =>
      match takeQuotes '\'' cs with
      | (s, some rest) => some (s, rest)
      | (s, none) =>
        (takeMultiLiteral? fuel (cs.drop s.length)).map fun (t, rest) => (s ++ t, rest)
    | c :: rest =>
      match takeLineEnd? cs with
      | some rest => (takeMultiLiteral? fuel rest).map fun (s, rest) => ('\n' :: s, rest)
      | none =>
        if isStringChar c then (takeMultiLiteral? fuel rest).map fun (s, rest) => (c :: s, rest)
        else none
    | [] => none

/-- Takes a string of any of the four kinds. -/
def takeString? (cs : List Char) : Option (String × List Char) :=
  let found := match cs with
    | '"' :: '"' :: '"' :: rest => takeMultiBasic? (rest.length + 1) (skipFirstLineEnd rest)
    | '"' :: rest => takeBasic? (rest.length + 1) rest
    | '\'' :: '\'' :: '\'' :: rest => takeMultiLiteral? (rest.length + 1) (skipFirstLineEnd rest)
    | '\'' :: rest => takeLiteral? rest
    | _ => none
  found.map fun (s, rest) => (String.ofList s, rest)

/-! ## §3 Keys -/

/-- A character of a bare key. -/
def isBareChar (c : Char) : Bool := Text.isAlphanumeric c || c == '_' || c == '-'

/-- Takes one part of a key. -/
def takeSimpleKey? (cs : List Char) : Option (String × List Char) :=
  match cs with
  | '"' :: rest => (takeBasic? (rest.length + 1) rest).map fun (s, rest) => (String.ofList s, rest)
  | '\'' :: rest => (takeLiteral? rest).map fun (s, rest) => (String.ofList s, rest)
  | _ =>
    let name := cs.takeWhile isBareChar
    if name.isEmpty then none else some (String.ofList name, cs.dropWhile isBareChar)

/-- Takes the parts of a key, separated by dots with blanks around them. -/
def takeKeyParts? : Nat → Taker (List String)
  | 0, _ => none
  | fuel + 1, cs => do
    let (part, rest) ← takeSimpleKey? (skipWhitespace cs)
    match skipWhitespace rest with
    | '.' :: rest =>
      let (parts, rest) ← takeKeyParts? fuel rest
      some (part :: parts, rest)
    | rest => some ([part], rest)

/-- The depth from which keys and values are refused. -/
def depthLimit : Nat := 80

/-- Takes a key of fewer parts than the depth limit. -/
def takeKey? (cs : List Char) : Option (List String × List Char) :=
  (takeKeyParts? (cs.length + 1) cs).filter fun (parts, _) => parts.length < depthLimit

end ObliviousRelay.Toml
