import ObliviousRelay.Text.Ascii
import ObliviousRelay.Text.Bytes

/-!
# Header fields

A field has a name, which is a token in small letters, and a value of bytes. Fields stand in a list
in which names may repeat; reading a field means reading the first one of its name.

- `FieldName.ofText?` accepts exactly the tokens of 1 to 65535 characters.
- `Fields.first?` is the first value of a name, `Fields.text?` the same as text, which is there only
  if every byte is visible ASCII, a space or a tab.
-/

namespace ObliviousRelay.Http

/-- A character of a token. -/
def isTokenChar (c : Char) : Bool :=
  Text.isAlphanumeric c ||
  ['!', '#', '$', '%', '&', '\'', '*', '+', '-', '.', '^', '_', '`', '|', '~'].contains c

/-- The most characters that a field name has. -/
def maxNameLength : Nat := 65535

/-- The name of a header field, in small letters. -/
structure FieldName where
  text : String
  deriving DecidableEq, Repr, Inhabited

/-- The field name that a text spells, up to the case of its letters. -/
def FieldName.ofText? (s : String) : Option FieldName :=
  let cs := s.toList
  if cs.isEmpty || maxNameLength < cs.length || !cs.all isTokenChar then none
  else some ⟨Text.lowerCase s⟩

namespace FieldName

def contentType : FieldName := ⟨"content-type"⟩
def contentLength : FieldName := ⟨"content-length"⟩
def transferEncoding : FieldName := ⟨"transfer-encoding"⟩
def host : FieldName := ⟨"host"⟩

end FieldName

/-- A byte that a field value holds: a tab, or anything but controls. -/
def isValueByte (b : UInt8) : Bool := b == 0x09 || (0x20 ≤ b && b != 0x7f)

/-- A byte that may stand in a value that is read as text. -/
def isTextByte (b : UInt8) : Bool := b == 0x09 || (0x20 ≤ b && b ≤ 0x7e)

/-- The value of a field as text, if it is one. -/
def valueText? (value : ByteArray) : Option String :=
  let bytes := value.toList
  if bytes.all isTextByte then some (String.ofList (bytes.map fun b => Char.ofNat b.toNat))
  else none

/-- One header field. -/
structure Field where
  name : FieldName
  value : ByteArray
  deriving DecidableEq, Inhabited

/-- The most fields that a head has. -/
def maxFields : Nat := 100

/-- Header fields in order. -/
abbrev Fields := List Field

namespace Fields

/-- The value of the first field of a name. -/
def first? (fields : Fields) (name : FieldName) : Option ByteArray :=
  (fields.find? (·.name == name)).map (·.value)

/-- The first value of a name as text. -/
def text? (fields : Fields) (name : FieldName) : Option String :=
  (fields.first? name).bind valueText?

end Fields

end ObliviousRelay.Http
