import ObliviousRelay.Text.Ascii

/-!
# Request targets

The target of a request line in its four forms: a path with a query, an asterisk, an authority, or
a scheme, an authority and a path with a query. A fragment is cut off.

- `RequestTarget.path` is the path of a target, or the fault of a text that is none. The authority
  form has the empty path; the absolute form has `/` where none is written.
-/

namespace ObliviousRelay.Http

namespace RequestTarget

/-- Why a text is no request target. -/
inductive Fault where
  | empty
  | length
  | schemeLength
  | character
  | authority
  | form
  deriving DecidableEq, Repr, Inhabited

/-- The wording of a fault. -/
def Fault.message : Fault → String
  | empty => "empty string"
  | length => "uri too long"
  | schemeLength => "scheme too long"
  | character => "invalid uri character"
  | authority => "invalid authority"
  | form => "invalid format"

/-- The most bytes of a target. -/
def maxLength : Nat := 65534

/-- The most characters of a scheme. -/
def maxSchemeLength : Nat := 64

/-- The most colons of an authority, as an address of version six with a port has. -/
def maxColons : Nat := 8

/-- A character of a path: any but controls, the space, `#`, `?`, `<` and `>`. A backquote is none
either, while a quote and braces are, though they should be written as escapes. -/
def isPathChar (c : Char) : Bool :=
  let n := c.toNat
  n = 0x21 || n = 0x22 || (0x24 ≤ n && n ≤ 0x3B) || n = 0x3D || (0x40 ≤ n && n ≤ 0x5F) ||
    (0x61 ≤ n && n ≤ 0x7E) || 0x7F ≤ n

/-- A character of a query. -/
def isQueryChar (c : Char) : Bool :=
  let n := c.toNat
  n = 0x21 || (0x24 ≤ n && n ≤ 0x3B) || n = 0x3D || 0x3F ≤ n

/-- A character of an authority. -/
def isAuthorityChar (c : Char) : Bool :=
  Text.isAlphanumeric c || "!$&'()*+,-.:;=@[]_~".toList.contains c

/-- A character that ends an authority. -/
def endsAuthority (c : Char) : Bool := c = '/' || c = '?' || c = '#'

/-- The part of a target before its fragment. -/
def withoutFragment (cs : List Char) : List Char := cs.takeWhile (· ≠ '#')

/-- The path of a path with a query. -/
def pathOf (cs : List Char) : Except Fault (List Char) :=
  let cs := withoutFragment cs
  let path := cs.takeWhile (· ≠ '?')
  let query := (cs.drop path.length).drop 1
  if path.all isPathChar && query.all isQueryChar then
    .ok (if path.isEmpty then ['/'] else path)
  else .error .character

/-- What has been seen of an authority: colons and escapes since the last bracket or `@`, brackets,
and whether the last character was an `@`. -/
structure AuthorityScan where
  colons : Nat := 0
  opened : Bool := false
  closed : Bool := false
  escaped : Bool := false
  endsInAt : Bool := false

/-- Reads one more character of an authority. -/
def AuthorityScan.next (s : AuthorityScan) (c : Char) : Except Fault AuthorityScan :=
  let s := { s with endsInAt := false }
  if c = ':' then
    if maxColons ≤ s.colons then .error .authority else .ok { s with colons := s.colons + 1 }
  else if c = '[' then
    if s.escaped || s.opened then .error .authority else .ok { s with opened := true }
  else if c = ']' then
    if !s.opened || s.closed then .error .authority
    else .ok { s with closed := true, colons := 0, escaped := false }
  else if c = '@' then .ok { s with endsInAt := true, colons := 0, escaped := false }
  else if c = '%' then .ok { s with escaped := true }
  else if isAuthorityChar c then .ok s
  else .error .character

/-- Whether an authority may end after what has been seen. -/
def AuthorityScan.isComplete (s : AuthorityScan) : Bool :=
  s.opened == s.closed && s.colons ≤ 1 && !s.endsInAt && !s.escaped

/-- Checks a text without `/`, `?` and `#`, possibly empty, to be an authority. -/
def checkAuthority (cs : List Char) : Except Fault Unit :=
  match cs.foldlM AuthorityScan.next {} with
  | .ok s => if s.isComplete then .ok () else .error .authority
  | .error fault => .error fault

/-- Splits a text at the end of its authority. -/
def splitAuthority (cs : List Char) : List Char × List Char :=
  cs.span (!endsAuthority ·)

/-- A character of a scheme. -/
def isSchemeChar (c : Char) : Bool :=
  Text.isAlphanumeric c || c = '+' || c = '-' || c = '.' || c = '~'

/-- The scheme of a text and what follows `://`, if there is one. -/
def splitScheme? (cs : List Char) : Option (List Char × List Char) :=
  let (scheme, rest) := cs.span isSchemeChar
  match rest with
  | ':' :: '/' :: '/' :: rest => some (scheme, rest)
  | _ => none

/-- The path of a target in absolute form, after its scheme. -/
def absolutePath (cs : List Char) : Except Fault (List Char) :=
  let (authority, rest) := splitAuthority cs
  match checkAuthority authority with
  | .error fault => .error fault
  | .ok () => if authority.isEmpty then .error .form else pathOf rest

/-- The path of a target in authority form, which is empty. -/
def authorityPath (cs : List Char) : Except Fault (List Char) :=
  let (authority, rest) := splitAuthority cs
  match checkAuthority authority with
  | .error fault => .error fault
  | .ok () => if rest.isEmpty then .ok [] else .error .form

/-- The path of a target that begins with neither a slash nor an asterisk. -/
def fullPath (cs : List Char) : Except Fault (List Char) :=
  match splitScheme? cs with
  | some (scheme, rest) =>
    if maxSchemeLength < scheme.length then .error .schemeLength else absolutePath rest
  | none => authorityPath cs

/-- The path of a request target. -/
def path (s : String) : Except Fault String :=
  if maxLength < s.utf8ByteSize then .error .length
  else match s.toList with
    | [] => .error .empty
    | ['*'] => .ok "*"
    | '/' :: rest => (pathOf ('/' :: rest)).map String.ofList
    | cs => (fullPath cs).map String.ofList

end RequestTarget

end ObliviousRelay.Http
