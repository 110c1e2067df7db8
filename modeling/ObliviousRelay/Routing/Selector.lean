import ObliviousRelay.Http.Field
import ObliviousRelay.Text.Blank

/-!
# Selectors

Which gateway a request asks for. The path names it by one segment after the relay's route; where
the path ends with the route, the selector header names it, and where that is absent or blank the
default applies. Any other path is none of the relay's.
-/

namespace ObliviousRelay

/-- Which gateway a request asks for. -/
inductive Selector where
  /-- A gateway by its name. -/
  | named (name : String)
  /-- No name was given. -/
  | unnamed
  deriving DecidableEq, Repr, Inhabited

namespace Selector

/-- The rest of a text after a given beginning. -/
def stripFront? : List Char → List Char → Option (List Char)
  | [], cs => some cs
  | _ :: _, [] => none
  | f :: fs, c :: cs => if f = c then stripFront? fs cs else none

/-- A route without its trailing slashes. -/
def routeBase (route : String) : List Char :=
  (route.toList.reverse.dropWhile (· = '/')).reverse

/-- A segment without one trailing slash. -/
def stripSlash (cs : List Char) : List Char :=
  if cs.getLast? = some '/' then cs.dropLast else cs

/-- The selector that the header gives: its trimmed text, if it is not blank. -/
def ofHeader (fields : Http.Fields) (header : Http.FieldName) : Selector :=
  match (fields.text? header).map Text.trim with
  | some name => if name = "" then unnamed else named name
  | none => unnamed

/-- The selector of a path after the route: the header's, or one segment. -/
def ofRest? (rest : List Char) (fields : Http.Fields) (header : Http.FieldName) : Option Selector :=
  match rest with
  | [] => some (ofHeader fields header)
  | '/' :: [] => some (ofHeader fields header)
  | '/' :: segment =>
    let name := stripSlash segment
    if name.isEmpty || name.contains '/' then none else some (named (String.ofList name))
  | _ => none

/-- The selector of a request, or none if its path is not the relay's. -/
def ofRequest? (route path : String) (fields : Http.Fields) (header : Http.FieldName) :
    Option Selector :=
  (stripFront? (routeBase route) path.toList).bind fun rest => ofRest? rest fields header

end Selector

end ObliviousRelay
