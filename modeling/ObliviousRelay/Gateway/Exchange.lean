import ObliviousRelay.Http.RequestTarget
import ObliviousRelay.Http.Status
import ObliviousRelay.Routing.Target

/-!
# What passes between a relay and a gateway

A message is offered to a gateway as one POST with exactly three header fields. What comes back is a
status, a declared content type and a body, not yet judged.
-/

namespace ObliviousRelay.Gateway

/-- What a gateway is offered. -/
structure Outbound where
  mediaType : MediaType
  body : ByteArray
  deriving DecidableEq, Inhabited

/-- What an encapsulated message offers a gateway: its type and its payload. -/
def Outbound.ofMessage (m : Message) : Outbound := ⟨m.mediaType, m.encode⟩

/-- What a gateway answered. -/
structure Reply where
  status : Http.Status
  contentType : Option String
  body : ByteArray
  deriving DecidableEq, Inhabited

/-- A request as it is written to a gateway. -/
structure WireRequest where
  method : String
  target : String
  fields : List (String × String)
  body : ByteArray
  deriving DecidableEq, Inhabited

/-- The first line of a request. -/
def WireRequest.requestLine (r : WireRequest) : String :=
  r.method ++ " " ++ r.target ++ " HTTP/1.1"

/-- The request that offers a message to a target. Only a target whose path is no request target
has none. -/
def wireRequest (t : Target) (o : Outbound) : Except Failure WireRequest :=
  match Http.RequestTarget.path t.requestPath with
  | .error fault => .error (.gatewayError ("invalid outbound request: " ++ fault.message))
  | .ok _ => .ok {
      method := "POST"
      target := t.requestPath
      fields := [("host", t.hostHeader), ("content-type", o.mediaType.text),
        ("content-length", toString o.body.size)]
      body := o.body }

end ObliviousRelay.Gateway
