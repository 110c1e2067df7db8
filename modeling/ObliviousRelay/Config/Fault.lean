import ObliviousRelay.Config.Tree
import ObliviousRelay.MediaType
import ObliviousRelay.Text.Quoted

/-!
# Faults of settings

Why a tree is no configuration. A fault names what was found and what was expected; `Fault.message`
is its wording.
-/

namespace ObliviousRelay.Config

/-- How a message describes what was found. -/
def Found.message : Found → String
  | null => "null"
  | boolean b => "boolean `" ++ (if b then "true" else "false") ++ "`"
  | integer n => "integer `" ++ toString n ++ "`"
  | real digits => "floating point `" ++ digits ++ "`"
  | text s => "string " ++ Text.quote s
  | sequence => "sequence"
  | table => "map"

/-- Why a tree is no configuration. -/
inductive Fault where
  | wrongType (found : Found) (expected : String)
  | wrongValue (found : Found) (expected : String)
  | wrongLength (length : Nat) (expected : String)
  | missingField (name : String)
  | unknownVariant (name : String) (variants : List String)
  /-- A text that names no media type. -/
  | mediaType (text : String)
  /-- A choice written neither as a name nor as a table of one name. -/
  | notAChoice
  deriving DecidableEq, Repr

/-- The wording of a fault. -/
def Fault.message : Fault → String
  | wrongType found expected => "invalid type: " ++ found.message ++ ", expected " ++ expected
  | wrongValue found expected => "invalid value: " ++ found.message ++ ", expected " ++ expected
  | wrongLength n expected => "invalid length " ++ toString n ++ ", expected " ++ expected
  | missingField name => "missing field `" ++ name ++ "`"
  | unknownVariant name variants => "unknown variant `" ++ name ++ "`, expected " ++
      " or ".intercalate (variants.map fun v => "`" ++ v ++ "`")
  | mediaType text => MediaType.unrecognized text
  | notAChoice => "wanted string or table"

end ObliviousRelay.Config
