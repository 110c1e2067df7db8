import ObliviousRelay.Text.Ascii
import ObliviousRelay.Text.Blank

/-!
# Media types of encapsulated messages

A relay carries two kinds of message. Each has one media type, written in one way and read up to
ASCII letter case and blank characters at the ends; parameters are not accepted.
-/

namespace ObliviousRelay

/-- The two message types a relay carries. -/
inductive MediaType where
  | request
  | response
  deriving DecidableEq, Repr, Inhabited

namespace MediaType

/-- The written form of a media type. -/
def text : MediaType → String
  | request => "message/ohttp-req"
  | response => "message/ohttp-res"

/-- Recognises a declared content type: the written form of a media type up to ASCII case, with
blank characters around it. -/
def parse? (s : String) : Option MediaType :=
  let cs := Text.trimChars s.toList
  if Text.sameLetters cs request.text.toList then some request
  else if Text.sameLetters cs response.text.toList then some response
  else none

/-- What is said of a text that is no media type: the text itself, untrimmed. -/
def unrecognized (s : String) : String :=
  "unrecognized OHTTP media type: " ++ s

/-- Reads a media type, naming a text that is none. -/
def ofText (s : String) : Except String MediaType :=
  match parse? s with
  | some m => .ok m
  | none => .error (unrecognized s)

end MediaType

end ObliviousRelay
