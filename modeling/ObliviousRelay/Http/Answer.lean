import ObliviousRelay.Http.Status
import ObliviousRelay.Message

/-!
# Answers to the client

An encapsulated response is answered with status 200 under its media type. A failure is answered
with the status of its kind and that status's reason phrase as the whole body, so no detail of a
gateway reaches the client.
-/

namespace ObliviousRelay.Http

/-- What the client is answered: a status, one content type, a body. -/
structure Answer where
  status : Status
  contentType : String
  body : ByteArray
  deriving DecidableEq, Inhabited

/-- The status that a failure is answered with. -/
def statusOf : Failure → Status
  | .malformedMessage .tooLarge => .payloadTooLarge
  | .malformedMessage _ => .badRequest
  | .unsupportedMediaType => .unsupportedMediaType
  | .methodNotAllowed => .methodNotAllowed
  | .unknownGateway => .notFound
  | .policyViolation => .badRequest
  | .gatewayBusy => .serviceUnavailable
  | .gatewayTimeout => .gatewayTimeout
  | .gatewayUnreachable _ => .badGateway
  | .gatewayError _ => .badGateway

namespace Answer

/-- The answer that carries an encapsulated message. -/
def encapsulated (m : Message) : Answer :=
  ⟨.ok, m.mediaType.text, m.encode⟩

/-- The answer to a failed exchange: the reason phrase of its status and nothing else. -/
def ofFailure (f : Failure) : Answer :=
  ⟨statusOf f, "text/plain; charset=utf-8", (statusOf f).reason.toUTF8⟩

/-- The answer to an exchange. -/
def ofResult : Except Failure Message → Answer
  | .ok m => encapsulated m
  | .error f => ofFailure f

end Answer

end ObliviousRelay.Http
