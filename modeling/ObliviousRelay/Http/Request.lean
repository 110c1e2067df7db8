import ObliviousRelay.Http.Field

/-!
# Requests

A request as it arrives: its head, and its body as a stream of pieces that may break off.

- `Body.collect` reads a whole stream within a bound, however it is cut into pieces.
-/

namespace ObliviousRelay.Http

/-- The head of a request: method, path and header fields. -/
structure RequestHead where
  method : String
  path : String
  fields : Fields
  deriving DecidableEq, Inhabited

/-- A method is a token. -/
def isMethod (s : String) : Bool := !s.isEmpty && s.toList.all isTokenChar

/-- One piece of a body as it arrives. -/
inductive Piece where
  | bytes (b : ByteArray)
  /-- The stream breaks off. -/
  | broken
  deriving DecidableEq, Inhabited

/-- A body in pieces. -/
abbrev Body := List Piece

namespace Body

/-- Reads on behind the bytes read so far; none if the stream breaks or overruns its bound. -/
def collectFrom (bound : Nat) (read : ByteArray) : Body → Option ByteArray
  | [] => some read
  | .broken :: _ => none
  | .bytes b :: rest =>
    if bound < read.size + b.size then none else collectFrom bound (read ++ b) rest

/-- Reads a whole body of at most `bound` bytes. -/
def collect (bound : Nat) (body : Body) : Option ByteArray :=
  collectFrom bound ByteArray.empty body

end Body

end ObliviousRelay.Http
