import ObliviousRelay.Http.Answer

/-!
# Responses

What a client gets to see: the answer to an exchange, or what the server says by itself. A response
to a HEAD request has the fields that it would have with a body, and no body.
-/

namespace ObliviousRelay.Http

/-- A response as it is sent. -/
structure Response where
  status : Status
  contentType : Option String := none
  allow : Option String := none
  contentLength : Option Nat := some 0
  body : ByteArray := .empty
  deriving DecidableEq, Inhabited

namespace Response

/-- The response that carries an answer. -/
def ofAnswer (a : Answer) : Response :=
  { status := a.status, contentType := some a.contentType, contentLength := some a.body.size,
    body := a.body }

/-- The answer of the liveness probe, which tells how many gateways are served. -/
def healthy (gateways : Nat) : Response :=
  let body := ("\x7b\"gateways\":" ++ toString gateways ++ ",\"status\":\"ok\"\x7d").toUTF8
  { status := .ok, contentType := some "application/json", contentLength := some body.size, body }

/-- The answer to a method that the liveness probe does not know. -/
def unprobed : Response := { status := .methodNotAllowed, allow := some "GET,HEAD" }

/-- The answer where no route leads. -/
def unrouted (method : String) : Response :=
  { status := .notFound, contentLength := if method = "HEAD" then none else some 0 }

/-- The answer to a request that took too long. -/
def tooLate : Response := { status := .requestTimeout }

/-- The response to a request by a method. -/
def forMethod (method : String) (r : Response) : Response :=
  if method = "HEAD" then { r with body := .empty } else r

/-- The answer of the liveness probe to a method. -/
def probe (method : String) (gateways : Nat) : Response :=
  if method = "GET" || method = "HEAD" then healthy gateways else unprobed

end Response

end ObliviousRelay.Http
