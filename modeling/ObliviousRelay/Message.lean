import ObliviousRelay.Failure
import ObliviousRelay.MediaType
import ObliviousRelay.Text.Bytes

/-!
# Encapsulated messages

An encapsulated message is an opaque, non-empty payload with its message type. Decoding checks the
envelope only: the media type first, then that there is a payload, then its bound. Encoding gives
the payload back.
-/

namespace ObliviousRelay

/-- An opaque payload tagged with its message type. -/
structure Message where
  mediaType : MediaType
  payload : ByteArray
  deriving DecidableEq, Inhabited

namespace Message

/-- The number of payload bytes. -/
def length (m : Message) : Nat := m.payload.size

/-- Wraps a body as a message: the first fault of media type, emptiness and size wins. -/
def decode (body : ByteArray) (declared : String) (bound : Nat) : Except Failure Message :=
  match MediaType.parse? declared with
  | none => .error (.malformedMessage .mediaType)
  | some mediaType =>
    if body.size = 0 then .error (.malformedMessage .empty)
    else if bound < body.size then .error (.malformedMessage .tooLarge)
    else .ok ⟨mediaType, body⟩

/-- The bytes of a message on the wire. -/
def encode (m : Message) : ByteArray := m.payload

end Message

end ObliviousRelay
