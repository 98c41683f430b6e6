import FluentAssist.Protocol.Mismatch
import FluentAssist.Url.Basic

/-!
# Shapes of values

The parameters of a call have a shape: flags, numbers, texts, lists, and records of fields. A record
is an object, in which members that are not known are passed over, or an array of its fields in
their order. A record may share groups of fields with other records; such a record is always an
object.

`Shape.mismatch?` finds the first thing about a value that does not fit: the members of an object
are met in the order of their names, those of shared groups after the others, and a field that is
missing is noticed after all members. `Shape.get?` finds a field of a record however the record is
written.
-/

set_option autoImplicit false

namespace FluentAssist.Protocol

/-- Whether a field of a record may be left out. -/
inductive Presence
  | required
  /-- The field may be left out of an object, but not of an array. -/
  | optional
  /-- The field may be left out. -/
  | defaulted
  deriving DecidableEq, Repr

/-- A field of a record. -/
structure ShapeField (σ : Type) where
  name : String
  presence : Presence
  shape : σ

/-- What a value is read as. -/
inductive Shape
  | any
  | flag
  | text
  /-- An integer of a type with the given bounds, both included. -/
  | integer (type : String) (low high : Int)
  /-- Any number. -/
  | real
  | address
  /-- One of some names, as a string or as the only member of an object that says nothing more. -/
  | choice (names : List String)
  | list (item : Shape)
  /-- An object whose members are all of one shape. -/
  | map (member : Shape)
  /-- A value of one of several shapes. -/
  | variants (name : String) (shapes : List Shape)
  | nullable (shape : Shape)
  /-- A flag may stand for a value of the shape. -/
  | flagOr (shape : Shape)
  | record (name : String) (fields : List (ShapeField Shape))
      (shared : List (List (ShapeField Shape)))

/-- The mismatch of a value that is not a name. -/
def choiceMismatch? (names : List String) : Json → Option Mismatch
  | .str name => if names.contains name then none else some (.unknownName name names)
  | .obj [(name, value)] =>
    if !names.contains name then some (.unknownName name names)
    else if value.isNull then none
    else some (.wrongType value "unit")
  | .obj members => some (.wrongValue (.obj members) "map with a single key")
  | value => some (.wrongType value "string or map")

/-- The mismatch of a value that is not an integer within bounds. -/
def integerMismatch? (type : String) (low high : Int) : Json → Option Mismatch
  | .num (.int value) =>
    if low ≤ value ∧ value ≤ high then none else some (.wrongValue (.num (.int value)) type)
  | value => some (.wrongType value type)

/-- The mismatch of a value that is not an address. -/
def addressMismatch? : Json → Option Mismatch
  | .str text =>
    match Url.read text.toList with
    | .ok _ => none
    | .error fault => some (.wrongValue (.str text) fault.message)
  | value => some (.wrongType value "a string representing an URL")

/-- The mismatch that is met first: the one with the least name. -/
def firstByName? : List (String × Mismatch) → Option Mismatch
  | [] => none
  | fault :: faults =>
    some (faults.foldl (fun first next => if next.1 < first.1 then next else first) fault).2

/-- The first field that an object may not leave out and does. -/
def missing? (fields : List (ShapeField Shape)) (members : List (String × Json)) :
    Option Mismatch :=
  (fields.find? fun field => field.presence = .required && (members.lookup field.name).isNone).map
    fun field => .missing field.name

/-- The mismatch of an array that goes on behind the last field. Within shared groups the number of
fields is told. -/
def excess? (inGroup : Bool) (count : Nat) (items : List Json) : Option Mismatch :=
  if items.length ≤ count then none
  else
    some (.wrongLength items.length
      (if inGroup then Mismatch.counted count "element" ++ " in sequence"
      else "fewer elements in array"))

namespace Shape

mutual

/-- The first thing about a value that does not fit. `inGroup` tells that the value is part of a
group of fields that records share. -/
def mismatch? (inGroup : Bool) : Shape → Json → Option Mismatch
  | .any, _ => none
  | .flag, value => if value.bool?.isSome then none else some (.wrongType value "a boolean")
  | .text, value => if value.string?.isSome then none else some (.wrongType value "a string")
  | .integer type low high, value => integerMismatch? type low high value
  | .real, value =>
    match value with
    | .num _ => none
    | _ => some (.wrongType value "f32")
  | .address, value => addressMismatch? value
  | .choice names, value => choiceMismatch? names value
  | .list item, value =>
    match value with
    | .arr items => items.findSome? fun value => mismatch? inGroup item value
    | _ => some (.wrongType value "a sequence")
  | .map member, value =>
    match value with
    | .obj members => members.findSome? fun entry => mismatch? inGroup member entry.2
    | _ => some (.wrongType value "a map")
  | .variants name shapes, value => if anyFits shapes value then none else some (.noVariant name)
  | .nullable shape, value => if value.isNull then none else mismatch? inGroup shape value
  | .flagOr shape, value => if value.bool?.isSome then none else mismatch? inGroup shape value
  | .record name fields shared, value =>
    match value with
    | .obj members =>
      (firstByName? (memberFaults inGroup fields members)).or
        ((missing? fields members).or (sharedFault? shared members))
    | .arr items =>
      if shared.isEmpty then
        (itemFault? inGroup ("struct " ++ name ++ " with " ++
            Mismatch.counted fields.length "element") 0 fields items).or
          (excess? inGroup fields.length items)
      else some (.wrongType value ("struct " ++ name))
    | _ => some (.wrongType value ("struct " ++ name))

/-- Whether a value has one of some shapes. -/
def anyFits : List Shape → Json → Bool
  | [], _ => false
  | shape :: shapes, value => (mismatch? true shape value).isNone || anyFits shapes value

/-- The members of an object that do not fit, by their names. -/
def memberFaults (inGroup : Bool) :
    List (ShapeField Shape) → List (String × Json) → List (String × Mismatch)
  | [], _ => []
  | ⟨name, _, shape⟩ :: fields, members =>
    let faults := memberFaults inGroup fields members
    match (members.lookup name).bind (mismatch? inGroup shape) with
    | some fault => (name, fault) :: faults
    | none => faults

/-- The first item of an array that does not fit its field, or the first field that the array may
not leave out and does. -/
def itemFault? (inGroup : Bool) (expected : String) (place : Nat) :
    List (ShapeField Shape) → List Json → Option Mismatch
  | [], _ => none
  | ⟨_, presence, _⟩ :: fields, [] =>
    if presence = .defaulted then itemFault? inGroup expected (place + 1) fields []
    else some (.wrongLength place expected)
  | ⟨_, _, shape⟩ :: fields, item :: items =>
    (mismatch? inGroup shape item).or (itemFault? inGroup expected (place + 1) fields items)

/-- The first thing about the members of an object that does not fit the groups of fields that its
record shares with others. -/
def sharedFault? : List (List (ShapeField Shape)) → List (String × Json) → Option Mismatch
  | [], _ => none
  | group :: groups, members =>
    (firstByName? (memberFaults true group members)).or
      ((missing? group members).or (sharedFault? groups members))

end

/-- The field of a record with the given name. -/
def get? (shape : Shape) (name : String) : Json → Option Json
  | .arr items =>
    match shape with
    | .record _ fields _ => ((fields.map ShapeField.name).zip items).lookup name
    | _ => none
  | value => value.get? name

/-- The field of a record with the given name, unless it is `null`. -/
def present? (shape : Shape) (name : String) (value : Json) : Option Json :=
  (shape.get? name value).filter fun field => !field.isNull

/-- A number of 32 bits. -/
def count : Shape := .integer "u32" 0 4294967295

/-- A number of 32 signed bits. -/
def int32 : Shape := .integer "i32" (-2147483648) 2147483647

end Shape

namespace ShapeField

/-- A field that is never left out. -/
def required (name : String) (shape : Shape) : ShapeField Shape := ⟨name, .required, shape⟩

/-- A field that may be left out or `null`. -/
def optional (name : String) (shape : Shape) : ShapeField Shape :=
  ⟨name, .optional, .nullable shape⟩

/-- A field with a default, for which `null` stands as well. -/
def defaulted (name : String) (shape : Shape) : ShapeField Shape :=
  ⟨name, .defaulted, .nullable shape⟩

end ShapeField

end FluentAssist.Protocol
