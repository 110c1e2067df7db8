/-!
# Response statuses

The three-digit status of a response, the reason phrases of those a relay gives itself, and the
class of successful statuses.
-/

namespace ObliviousRelay.Http

/-- A response status. -/
structure Status where
  code : Nat
  deriving DecidableEq, Repr, Inhabited

namespace Status

/-- A number that can be a status: three digits, the first not zero. -/
def ofNat? (n : Nat) : Option Status :=
  if 100 ≤ n ∧ n ≤ 999 then some ⟨n⟩ else none

def ok : Status := ⟨200⟩
def badRequest : Status := ⟨400⟩
def notFound : Status := ⟨404⟩
def methodNotAllowed : Status := ⟨405⟩
def requestTimeout : Status := ⟨408⟩
def payloadTooLarge : Status := ⟨413⟩
def targetTooLong : Status := ⟨414⟩
def unsupportedMediaType : Status := ⟨415⟩
def fieldsTooLarge : Status := ⟨431⟩
def badGateway : Status := ⟨502⟩
def serviceUnavailable : Status := ⟨503⟩
def gatewayTimeout : Status := ⟨504⟩

/-- A status of the 2xx class. -/
def isSuccess (s : Status) : Bool := 200 ≤ s.code && s.code < 300

/-- The canonical reason phrase of the statuses a relay answers with. -/
def reason (s : Status) : String :=
  match s.code with
  | 200 => "OK"
  | 400 => "Bad Request"
  | 404 => "Not Found"
  | 405 => "Method Not Allowed"
  | 408 => "Request Timeout"
  | 413 => "Payload Too Large"
  | 415 => "Unsupported Media Type"
  | 502 => "Bad Gateway"
  | 503 => "Service Unavailable"
  | 504 => "Gateway Timeout"
  | _ => ""

end Status

end ObliviousRelay.Http
