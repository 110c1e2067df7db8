/-!
# Failures of an exchange

Every failure ends the exchange it belongs to. It carries what picks a status and a label, and a
text for the operator where a gateway or the network is at fault; never payload bytes.

- `Failure.message` is the operator's text.
- `Failure.outcome` is the label under which exchanges are counted.
-/

namespace ObliviousRelay

/-- Why an encapsulated message was rejected at its envelope. -/
inductive FramingFault where
  /-- The declared media type is not one of the two message types. -/
  | mediaType
  /-- The payload is empty. -/
  | empty
  /-- The payload exceeds its bound. -/
  | tooLarge
  deriving DecidableEq, Repr, Inhabited

/-- The wording of a framing fault. -/
def FramingFault.message : FramingFault → String
  | mediaType => "unrecognized media type"
  | empty => "empty payload"
  | tooLarge => "payload too large"

/-- Why one exchange failed. -/
inductive Failure where
  | malformedMessage (fault : FramingFault)
  | unsupportedMediaType
  | methodNotAllowed
  | unknownGateway
  | policyViolation
  /-- No slot of the gateway's pool became free within the queue wait. -/
  | gatewayBusy
  | gatewayTimeout
  /-- Nothing was accepted for writing by the gateway, or its connection broke. -/
  | gatewayUnreachable (detail : String)
  /-- The gateway answered, but not with an encapsulated response. -/
  | gatewayError (detail : String)
  deriving DecidableEq, Repr, Inhabited

namespace Failure

/-- The operator's text of a failure. -/
def message : Failure → String
  | malformedMessage fault => "malformed message: " ++ fault.message
  | unsupportedMediaType => "unsupported media type"
  | methodNotAllowed => "method not allowed"
  | unknownGateway => "unknown gateway"
  | policyViolation => "policy violation"
  | gatewayBusy => "gateway busy"
  | gatewayTimeout => "gateway timeout"
  | gatewayUnreachable detail => "gateway unreachable: " ++ detail
  | gatewayError detail => "gateway error: " ++ detail

/-- The label under which an exchange that failed so is counted. -/
def outcome : Failure → String
  | malformedMessage .tooLarge => "too_large"
  | malformedMessage _ => "malformed"
  | unsupportedMediaType => "unsupported_media_type"
  | methodNotAllowed => "method_not_allowed"
  | unknownGateway => "unknown_gateway"
  | policyViolation => "policy_violation"
  | gatewayBusy => "gateway_busy"
  | gatewayTimeout => "gateway_timeout"
  | gatewayUnreachable _ => "gateway_unreachable"
  | gatewayError _ => "gateway_error"

end Failure

end ObliviousRelay
