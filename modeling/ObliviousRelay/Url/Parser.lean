import ObliviousRelay.Url.Host

/-!
# Reading URLs

A text is read as an absolute URL and brought to its normal form. Controls and spaces at its ends,
and tabs and line ends anywhere, count for nothing. A special scheme always has an authority and a
path; its backslashes are read as slashes. Dot segments of a path are resolved while it is read.

- `Url.parse` reads a URL or names the first fault.
-/

namespace ObliviousRelay.Url

/-- The kinds of scheme, which differ in how what follows is read. -/
inductive SchemeKind where
  | file
  | special
  | other
  deriving DecidableEq, Repr

/-- The kind of a scheme. -/
def SchemeKind.of (scheme : String) : SchemeKind :=
  match scheme with
  | "file" => .file
  | "http" | "https" | "ws" | "wss" | "ftp" => .special
  | _ => .other

/-- A character that ends an authority. -/
def endsAuthority (kind : SchemeKind) (c : Char) : Bool :=
  c == '/' || c == '?' || c == '#' || (kind != .other && c == '\\')

/-! ## §1 Scheme -/

/-- A character of a scheme after its first letter. -/
def isSchemeChar (c : Char) : Bool :=
  Text.isAlphanumeric c || c == '+' || c == '-' || c == '.'

/-- Splits a text at the colon after a scheme. -/
def takeScheme? (cs : List Char) : Option (String × List Char) :=
  match cs.head?, cs.dropWhile isSchemeChar with
  | some c, ':' :: rest =>
    if Text.isLetter c then some (String.ofList ((cs.takeWhile isSchemeChar).map Text.lower), rest)
    else none
  | _, _ => none

/-! ## §2 Authority -/

/-- Splits at the last at sign, if there is one. -/
def splitLastAt (cs : List Char) : Option (List Char) × List Char :=
  let host := (cs.reverse.takeWhile (· != '@')).reverse
  if host.length = cs.length then (none, cs)
  else (some (cs.take (cs.length - host.length - 1)), host)

/-- User name and password as they are written: the password is left out where it is empty. -/
def userinfoText (cs : List Char) : String :=
  let name := cs.takeWhile (· != ':')
  let password := (cs.dropWhile (· != ':')).drop 1
  String.ofList (percentEncode userinfoSet name ++
    (if password.isEmpty then [] else ':' :: percentEncode userinfoSet password))

/-- Splits a host from a port: at the first colon outside brackets. -/
def splitHost (inBrackets : Bool) : List Char → List Char × List Char
  | [] => ([], [])
  | c :: rest =>
    if c = ':' && !inBrackets then ([], c :: rest)
    else
      let inside := if c = '[' then true else if c = ']' then false else inBrackets
      let (host, port) := splitHost inside rest
      (c :: host, port)

/-- Reads a port: digits only, at most 65535, and none where no digit stands. Leading zeros count
for nothing. -/
def parsePort (scheme : String) (cs : List Char) : Except Fault (Option UInt16) :=
  if !cs.all Text.isDigit then .error .port
  else if 65535 < Text.digitsValue cs then .error .port
  else if cs.isEmpty then .ok none
  else
    let p := UInt16.ofNat (Text.digitsValue cs)
    .ok (if defaultPort? scheme = some p then none else some p)

/-- Reads what stands between the slashes and the path; `isFollowed` tells whether anything comes
after it. -/
def parseAuthority (scheme : String) (kind : SchemeKind) (isFollowed : Bool) (cs : List Char) :
    Except Fault Authority := do
  let (user, rest) := splitLastAt cs
  if user = some [] && rest.isEmpty && isFollowed then throw .emptyHost
  let userinfo := userinfoText (user.getD [])
  let (hostText, portText) := splitHost false rest
  let host ← match kind with
    | .other => Host.parseOpaque hostText
    | _ => if hostText.isEmpty then throw .emptyHost else some <$> Host.parse hostText
  if host.isNone && !portText.isEmpty then throw .emptyHost
  let port ← parsePort scheme (portText.drop 1)
  if host.isNone && !userinfo.isEmpty then throw .emptyHost
  return { userinfo, host, port }

/-! ## §3 Path -/

/-- A segment that stands for its directory's parent. -/
def isDoubleDot (cs : List Char) : Bool :=
  ["..", ".%2e", "%2e.", "%2e%2e"].contains (String.ofList (cs.map Text.lower))

/-- A segment that stands for its directory. -/
def isSingleDot (cs : List Char) : Bool :=
  [".", "%2e"].contains (String.ofList (cs.map Text.lower))

/-- A letter with a colon or a bar: the drive at the root of a path. -/
def isDriveLetter : List Char → Bool
  | [c, d] => Text.isLetter c && (d == ':' || d == '|')
  | _ => false

/-- A segment that no double dot removes: a drive letter, alone or before a backslash. -/
def isPinned (cs : List Char) : Bool :=
  isDriveLetter (cs.take 2) && (cs.length == 2 || cs[2]? == some '\\')

/-- The segments left when a double dot follows them. -/
def dropSegment (segments : List (List Char)) : List (List Char) :=
  match segments with
  | last :: rest => if isPinned last then last :: rest else rest
  | [] => []

/-- Whether a character separates segments. -/
def isSeparator (kind : SchemeKind) (c : Char) : Bool :=
  c == '/' || (kind != .other && c == '\\')

/-- One more segment that is followed by a separator, after those in `segments` (last first). -/
def pushSegment (kind : SchemeKind) (segments : List (List Char)) (segment : List Char) :
    List (List Char) :=
  if isDoubleDot segment then dropSegment segments
  else if isSingleDot segment then segments
  else if kind = .file && segments.isEmpty && isDriveLetter segment then
    (segment.take 1 ++ [':']) :: segments
  else segment :: segments

/-- The last segment of a path, after those in `segments` (last first). -/
def endSegment (kind : SchemeKind) (segments : List (List Char)) (segment : List Char) :
    List (List Char) :=
  if isDoubleDot segment then [] :: dropSegment segments
  else if isSingleDot segment then [] :: segments
  else pushSegment kind segments segment

/-- Reads segments up to the end of a path; `segment` holds the characters of the current one in
reverse. -/
def readSegments (kind : SchemeKind) (segments : List (List Char)) (segment : List Char) :
    List Char → List (List Char)
  | [] => endSegment kind segments segment.reverse
  | c :: rest =>
    if isSeparator kind c then
      readSegments kind (pushSegment kind segments segment.reverse) [] rest
    else readSegments kind segments ((encodeChar pathSet c).reverse ++ segment) rest

/-- A path from its segments, last first. -/
def pathText (segments : List (List Char)) : List Char :=
  segments.reverse.flatMap ('/' :: ·)

/-- Reads the path of a URL with an authority, or one that begins with a slash. -/
def parsePath (kind : SchemeKind) (cs : List Char) : List Char :=
  let rest := match cs with
    | c :: rest => if isSeparator kind c then rest else cs
    | [] => []
  match kind, cs with
  | .other, [] => []
  | .file, _ => '/' :: (pathText (readSegments kind [] [] rest)).dropWhile (· == '/')
  | _, _ => pathText (readSegments kind [] [] rest)

/-! ## §4 The whole -/

/-- Splits at the first question mark or number sign: path, query and fragment. -/
def splitTail (cs : List Char) : List Char × Option (List Char) × Option (List Char) :=
  let path := cs.takeWhile fun c => c != '?' && c != '#'
  match cs.dropWhile fun c => c != '?' && c != '#' with
  | '?' :: rest =>
    let query := rest.takeWhile (· != '#')
    match rest.dropWhile (· != '#') with
    | _ :: fragment => (path, some query, some fragment)
    | [] => (path, some query, none)
  | _ :: fragment => (path, none, some fragment)
  | [] => (path, none, none)

/-- The text that a URL is read from: without controls and spaces at the ends, and without tabs and
line ends. -/
def cleaned (s : String) : List Char :=
  let isSpace := fun (c : Char) => c.toNat ≤ 0x20
  let cs := ((s.toList.dropWhile isSpace).reverse.dropWhile isSpace).reverse
  cs.filter fun c => c != '\t' && c != '\n' && c != '\r'

/-- The query and fragment of a URL, encoded. -/
def withTail (kind : SchemeKind) (query fragment : Option (List Char)) (u : Url) : Url :=
  let set := if kind = .other then querySet else specialQuerySet
  { u with
    query := query.map fun q => String.ofList (percentEncode set q)
    fragment := fragment.map fun f => String.ofList (percentEncode fragmentSet f) }

/-- Reads what follows the two slashes. -/
def afterSlashes (scheme : String) (kind : SchemeKind) (cs : List Char) : Except Fault Url := do
  let tail := cs.dropWhile fun c => !endsAuthority kind c
  let authority ← parseAuthority scheme kind (!tail.isEmpty)
    (cs.takeWhile fun c => !endsAuthority kind c)
  let (path, query, fragment) := splitTail tail
  return withTail kind query fragment
    { scheme, authority := some authority, path := String.ofList (parsePath kind path) }

/-- Reads the host of a file, which may be empty; the local host counts as none. -/
def parseFileHost (cs : List Char) : Except Fault (Option Host) :=
  if cs.isEmpty then .ok none
  else do
    let host ← Host.parse cs
    return if host = .domain "localhost" then none else some host

/-- Reads what follows the scheme of a file. -/
def parseFile (cs : List Char) : Except Fault Url := do
  let isSlash := fun (c : Char) => c == '/' || c == '\\'
  let slashes := (cs.take 2).takeWhile isSlash
  let (host, rest) ←
    if slashes.length = 2 then
      let text := (cs.drop 2).takeWhile fun c => !endsAuthority .file c
      if isDriveLetter text then pure (none, '/' :: cs.drop 2)
      else do pure (← parseFileHost text, (cs.drop 2).dropWhile fun c => !endsAuthority .file c)
    else pure (none, cs)
  let (path, query, fragment) := splitTail rest
  return withTail .file query fragment
    { scheme := "file", authority := some { host }, path := String.ofList (parsePath .file path) }

/-- Reads what follows a scheme that is not special. -/
def parseOther (scheme : String) (cs : List Char) : Except Fault Url :=
  match cs with
  | '/' :: '/' :: rest => afterSlashes scheme .other rest
  | _ =>
    let (path, query, fragment) := splitTail cs
    let path := match path with
      | '/' :: _ => parsePath .other path
      | _ => percentEncode controlSet path
    .ok (withTail .other query fragment { scheme, path := String.ofList path })

/-- **Reads a URL.** -/
def parse (s : String) : Except Fault Url :=
  match takeScheme? (cleaned s) with
  | none => .error .relative
  | some (scheme, rest) =>
    match SchemeKind.of scheme with
    | .file => parseFile rest
    | .special => afterSlashes scheme .special (rest.dropWhile fun c => c == '/' || c == '\\')
    | .other => parseOther scheme rest

end ObliviousRelay.Url
