import ObliviousRelay.Http.Field
import ObliviousRelay.Http.Status
import ObliviousRelay.Text.Blank
import ObliviousRelay.Text.Natural

/-!
# How the end of a body is told

By its length, by its chunks, or, for a reply, by the end of the connection. A request whose fields
disagree about it is refused.

- `Framing.ofRequest` decides it for a request, and gives the fields that are kept: a length is kept
  once, and not at all behind a coding.
-/

namespace ObliviousRelay.Http

/-- How the end of a body is told. -/
inductive Framing where
  | length (n : Nat)
  | chunked
  | untilClose
  deriving DecidableEq, Repr

/-- The greatest length of a body: the two words above it stand for the other two ways. -/
def maxBodyLength : Nat := Nat.pow 2 64 - 3

namespace Framing

/-- What has been read of the fields of a request. -/
structure Scan where
  kept : Fields := []
  length : Option Nat := none
  /-- Whether the coding named last is that in chunks, if one was named. -/
  chunked : Option Bool := none

/-- Whether the last coding of a list is that in chunks. -/
def endsInChunks (value : ByteArray) : Bool :=
  match valueText? value with
  | some codings =>
    ((codings.splitOn ",").getLast?.map fun s => Text.lowerCase (Text.trim s)) = some "chunked"
  | none => false

/-- The length that a value gives: digits only, and a word. -/
def lengthOf? (value : ByteArray) : Option Nat :=
  ((valueText? value).bind fun s => Text.natural? s.toList).filter (· < Nat.pow 2 64)

namespace Scan

/-- The scan with one more field. -/
def keep (s : Scan) (f : Field) : Scan := { s with kept := s.kept ++ [f] }

/-- Reads a field that gives a length. -/
def nextLength (s : Scan) (f : Field) : Except Status Scan :=
  if s.chunked.isSome then .ok s
  else match lengthOf? f.value, s.length with
    | none, _ => .error .badRequest
    | some n, some m => if n = m then .ok s else .error .badRequest
    | some n, none =>
      if maxBodyLength < n then .error .fieldsTooLarge else .ok { s.keep f with length := some n }

/-- Reads one more field. -/
def next (s : Scan) (f : Field) : Except Status Scan :=
  if f.name = .transferEncoding then
    .ok { s.keep f with chunked := some (endsInChunks f.value) }
  else if f.name = .contentLength then s.nextLength f
  else .ok (s.keep f)

/-- How the end of the body is told, once all fields are read. -/
def framing (s : Scan) : Except Status Framing :=
  match s.chunked with
  | some true => .ok .chunked
  | some false => .error .badRequest
  | none => .ok (.length (s.length.getD 0))

end Scan

/-- The fields that are kept of a request and how the end of its body is told, or the status with
which it is refused. -/
def ofRequest (fields : Fields) : Except Status (Fields × Framing) := do
  let s ← fields.foldlM Scan.next {}
  return (s.kept, ← s.framing)

end Framing

end ObliviousRelay.Http
