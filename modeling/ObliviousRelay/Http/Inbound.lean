import ObliviousRelay.Http.Request
import ObliviousRelay.Message
import ObliviousRelay.Routing.Selector
import ObliviousRelay.Text.Natural

/-!
# Inbound requests

What a relay accepts from a client: a POST on its route, declared as an encapsulated request, whose
body is not empty and stays within the bound. Of the header fields only the first Content-Type, the
first Content-Length and the first selector field are looked at.

- `Inbound.screen` checks the head, `Inbound.receive` reads the body, `Inbound.read` does both.
- The first failing check decides: method, path, media type, declared length, length, emptiness.
-/

namespace ObliviousRelay.Http

/-- How requests are recognised and bounded. -/
structure Route where
  pathPrefix : String
  selectorHeader : FieldName
  maxBodySize : Nat
  deriving DecidableEq, Repr

/-- A head that was admitted: the selector, and the media type as the client wrote it. -/
structure Admission where
  selector : Selector
  declaredType : String
  deriving DecidableEq, Repr

/-- A request that was accepted. -/
structure Inbound where
  selector : Selector
  message : Message
  deriving DecidableEq

namespace Inbound

/-- The declared media type, if it is that of an encapsulated request. -/
def declaredType? (fields : Fields) : Option String :=
  (fields.text? .contentType).filter fun value => MediaType.parse? value = some .request

/-- The declared length, if it is written as a word of 64 bits. -/
def declaredLength? (fields : Fields) : Option Nat :=
  (fields.text? .contentLength).bind fun value => Text.unsigned? (Nat.pow 2 64) value.toList

/-- Whether a length is declared that exceeds the bound. -/
def declaresTooMuch (bound : Nat) (fields : Fields) : Bool :=
  match declaredLength? fields with
  | some n => bound < n
  | none => false

/-- Checks the head of a request. -/
def screen (route : Route) (head : RequestHead) : Except Failure Admission :=
  if head.method ≠ "POST" then .error .methodNotAllowed
  else match Selector.ofRequest? route.pathPrefix head.path head.fields route.selectorHeader with
    | none => .error .unknownGateway
    | some selector => match declaredType? head.fields with
      | none => .error .unsupportedMediaType
      | some declaredType =>
        if declaresTooMuch route.maxBodySize head.fields then
          .error (.malformedMessage .tooLarge)
        else .ok ⟨selector, declaredType⟩

/-- Reads the body of an admitted request. A stream that breaks off counts as one that overruns its
bound: either way there is no whole message. -/
def receive (route : Route) (a : Admission) (body : Body) : Except Failure Inbound :=
  match body.collect route.maxBodySize with
  | none => .error (.malformedMessage .tooLarge)
  | some bytes => (Message.decode bytes a.declaredType route.maxBodySize).map (⟨a.selector, ·⟩)

/-- Accepts a request or says why it is refused. -/
def read (route : Route) (head : RequestHead) (body : Body) : Except Failure Inbound :=
  match screen route head with
  | .error f => .error f
  | .ok a => receive route a body

end Inbound

end ObliviousRelay.Http
