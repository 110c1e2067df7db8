/-!
# Routes

Which paths a relay serves: its liveness probe, its own route, and its route with one more segment.
A path is compared as it was sent, undecoded, segment by segment. In a route `{x}` at the end of a
segment stands for any text that is not empty; a doubled brace is a brace.

- `Routes.ofRoute?` reads the routes of a configured one, if it can be served.
- `Routes.find?` tells what serves a path; a written segment goes before one that stands for any.
-/

namespace ObliviousRelay.Http

/-- A segment of a route. -/
inductive RouteSegment where
  | literal (text : List Char)
  /-- The text given, then at least one more character. -/
  | capture (start : List Char)
  deriving DecidableEq, Repr

namespace RouteSegment

/-- Whether a segment of a path fits. -/
def accepts : RouteSegment → List Char → Bool
  | literal text, cs => text == cs
  | capture start, cs => start.isPrefixOf cs && start.length < cs.length

/-- Whether a text can name a capture: it is not empty, and is not taken for more than one
segment. -/
def isCaptureName (name : List Char) : Bool :=
  !name.isEmpty && !name.contains '*'

/-- Reads a segment after the literal text read so far. -/
def read? (seen : List Char) : List Char → Option RouteSegment
  | [] => some (literal seen)
  | '{' :: '{' :: rest => read? (seen ++ ['{']) rest
  | '}' :: '}' :: rest => read? (seen ++ ['}']) rest
  | '{' :: rest =>
    match rest.getLast? with
    | some '}' =>
      let name := rest.dropLast
      if isCaptureName name && !name.contains '}' && !name.contains '{' then some (capture seen)
      else none
    | _ => none
  | '}' :: _ => none
  | c :: rest => read? (seen ++ [c]) rest

/-- Reads a segment; none may start with a colon or an asterisk. -/
def ofText? (cs : List Char) : Option RouteSegment :=
  match cs with
  | ':' :: _ => none
  | '*' :: _ => none
  | _ => read? [] cs

end RouteSegment

/-- Splits a text at its slashes. -/
def segments : List Char → List (List Char)
  | [] => [[]]
  | '/' :: rest => [] :: segments rest
  | c :: rest =>
    match segments rest with
    | [] => [[c]]
    | s :: more => (c :: s) :: more

/-- A route: the segments after its first slash. -/
abbrev RoutePattern := List RouteSegment

namespace RoutePattern

/-- Reads a route, which starts with a slash. -/
def ofText? : List Char → Option RoutePattern
  | '/' :: rest => (segments rest).mapM RouteSegment.ofText?
  | _ => none

/-- Whether each segment of a path fits the segment of the route in its place. -/
def acceptsAll : RoutePattern → List (List Char) → Bool
  | [], [] => true
  | p :: ps, s :: ss => p.accepts s && acceptsAll ps ss
  | _, _ => false

/-- Whether a path fits a route. -/
def accepts (p : RoutePattern) (path : List Char) : Bool :=
  match path with
  | '/' :: rest => p.acceptsAll (segments rest)
  | _ => false

end RoutePattern

/-- What serves a path. -/
inductive Endpoint where
  | health
  | relay
  deriving DecidableEq, Repr

/-- The routes of a relay. -/
structure Routes where
  /-- The relay's own route. -/
  plain : RoutePattern
  /-- The relay's route with one more segment, the gateway's name. -/
  named : RoutePattern
  deriving DecidableEq, Repr

namespace Routes

/-- The path of the liveness probe. -/
def healthPath : String := "/health"

/-- The route that has one more segment. -/
def withName (route : String) : String :=
  if route = "/" then "/\x7bgateway\x7d" else route ++ "/\x7bgateway\x7d"

/-- The routes of a configured route, if they can be served. -/
def ofRoute? (route : String) : Option Routes := do
  let plain ← RoutePattern.ofText? route.toList
  let named ← RoutePattern.ofText? (withName route).toList
  some ⟨plain, named⟩

/-- Whether a path is the relay's. -/
def isRelay (r : Routes) (path : String) : Bool :=
  r.plain.accepts path.toList || r.named.accepts path.toList

/-- Whether the liveness probe and the relay share their path, so that the probe answers only the
methods that it knows. -/
def isShared (r : Routes) : Bool := r.plain.map (· matches .capture _) == [false] &&
  r.plain.accepts healthPath.toList

/-- What serves a request for a path by a method. -/
def find? (r : Routes) (method path : String) : Option Endpoint :=
  if path = healthPath then
    if r.isShared && method ≠ "GET" && method ≠ "HEAD" then some .relay else some .health
  else if r.isRelay path then some .relay
  else none

end Routes

end ObliviousRelay.Http
