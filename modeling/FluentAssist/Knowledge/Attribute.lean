import FluentAssist.Knowledge.Table
import FluentAssist.Text.Basic

/-!
# Attributes of components

A prop, slot, event or method of a component as its metadata describe it. Events and methods have
parameters and methods results; both are either not described, described as nothing, or a list of
named members.
-/

set_option autoImplicit false

namespace FluentAssist

/-- The parameters or the result of a callable attribute. -/
inductive CallShape
  /-- Not described. -/
  | absent
  /-- Described as nothing. -/
  | void
  /-- Named members with their descriptions. -/
  | named (members : Table Json)
  deriving Repr, BEq

/-- The names of a shape as a signature shows them. -/
def CallShape.names : CallShape → String
  | .absent => ""
  | .void => "void"
  | .named members => ", ".intercalate members.names

/-- An attribute of a component. -/
structure Attribute where
  /-- The names of the accepted types. -/
  valueType : Option (List String) := none
  description : String := ""
  defaultValue : Option Json := none
  /-- The accepted values, still in quotation marks. -/
  acceptedLiterals : Option (List String) := none
  examples : Option (List String) := none
  category : Option String := none
  /-- Internal attributes are never shown. -/
  internal : Bool := false
  parameters : CallShape := .absent
  result : CallShape := .absent
  deriving Repr, BEq

/-- Removes one pair of equal quotation marks around a value. -/
def stripQuotes (value : Text) : Text :=
  match value with
  | first :: rest =>
    if (first == '\'' || first == '"') && rest.getLast? == some first then rest.dropLast
    else value
  | [] => value

namespace Attribute

/-- Whether the attribute is a plain boolean. -/
def isBoolean (attr : Attribute) : Bool := attr.valueType == some ["Boolean"]

/-- A short description: the signature of a callable attribute, else the accepted types. -/
def signature (attr : Attribute) : Option String :=
  match attr.parameters, attr.result with
  | .absent, _ => attr.valueType.map (" | ".intercalate ·)
  | parameters, .absent => some ("(" ++ parameters.names ++ ")")
  | parameters, result => some ("(" ++ parameters.names ++ ") => " ++ result.names)

/-- The accepted values without their quotation marks. -/
def literalValues (attr : Attribute) : List Text :=
  (attr.acceptedLiterals.getD []).map fun literal => stripQuotes literal.toList

end Attribute

end FluentAssist
