import FluentAssist.Json.Printer
import FluentAssist.Text.Quoted

/-!
# Values that do not fit

Why a value cannot be read as what is expected in its place, and how an editor is told.
-/

set_option autoImplicit false

namespace FluentAssist.Protocol

/-- Why a value is not what is expected. -/
inductive Mismatch
  /-- The value is of another type. -/
  | wrongType (found : Json) (expected : String)
  /-- The value is of the right type and still not one of those expected. -/
  | wrongValue (found : Json) (expected : String)
  /-- A list has too many or too few items. -/
  | wrongLength (length : Nat) (expected : String)
  /-- A field of a record is missing. -/
  | missing (field : String)
  /-- A name is none of those that may stand here. -/
  | unknownName (found : String) (names : List String)
  /-- The value has none of the shapes that go by a name. -/
  | noVariant (name : String)
  deriving Repr

namespace Mismatch

/-- A name between marks. -/
def marked (name : String) : String := "`" ++ name ++ "`"

/-- What a value is called. -/
def described : Json → String
  | .null => "null"
  | .bool value => "boolean " ++ marked (if value then "true" else "false")
  | .num (.int value) => "integer " ++ marked (String.ofList (Json.Number.text (.int value)))
  | .num (.real bits) =>
    "floating point " ++ marked (String.ofList (Json.Number.text (.real bits)))
  | .str text => "string " ++ String.ofList (Text.quoted text.toList)
  | .arr _ => "sequence"
  | .obj _ => "map"

/-- Names of which one is expected. -/
def oneOf : List String → String
  | [name] => marked name
  | [first, second] => marked first ++ " or " ++ marked second
  | names => "one of " ++ ", ".intercalate (names.map marked)

/-- A number of things. -/
def counted (count : Nat) (thing : String) : String :=
  toString count ++ " " ++ thing ++ (if count = 1 then "" else "s")

/-- The wording of a mismatch. -/
def message : Mismatch → String
  | .wrongType found expected => "invalid type: " ++ described found ++ ", expected " ++ expected
  | .wrongValue found expected => "invalid value: " ++ described found ++ ", expected " ++ expected
  | .wrongLength length expected =>
    "invalid length " ++ toString length ++ ", expected " ++ expected
  | .missing field => "missing field " ++ marked field
  | .unknownName found names => "unknown variant " ++ marked found ++ ", expected " ++ oneOf names
  | .noVariant name => "data did not match any variant of untagged enum " ++ name

end Mismatch

end FluentAssist.Protocol
