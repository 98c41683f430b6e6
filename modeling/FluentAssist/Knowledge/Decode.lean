import FluentAssist.Json.Reader
import FluentAssist.Knowledge.Base

/-!
# Reading knowledge tables

The tables are JSON texts. A record is written as an object, whose unknown members are skipped and
whose known members may occur once, or as an array of its fields in their order. Fields that are
left out have their default. A collection keeps the order of its members; of a repeated key the
first place and the last value count.

Every reader is given the number of arrays and objects that may still be opened inside the text it
reads.
-/

set_option autoImplicit false

namespace FluentAssist.Knowledge

open Json (Raw StringPiece)

/-- Reads a part of a text that may open the given number of arrays and objects. -/
abbrev RawReader (α : Type) := Nat → Raw → Option α

/-- A string. -/
def readString : RawReader String
  | _, .str pieces => Json.piecesString? pieces
  | _, _ => none

/-- A boolean. -/
def readBool : RawReader Bool
  | _, .bool value => some value
  | _, _ => none

/-- Something or `null`. -/
def readOptional {α : Type} (read : RawReader α) : RawReader (Option α)
  | _, .null => some none
  | room, raw => (read room raw).map some

/-- A list. -/
def readList {α : Type} (read : RawReader α) : RawReader (List α)
  | room, .arr items => items.mapM (read (room - 1))
  | _, _ => none

/-- A collection with keys. -/
def readMap {α : Type} (read : RawReader α) : RawReader (Table α)
  | room, .obj members => do
    let found ← members.mapM fun (key, raw) => do
      return (← Json.piecesString? key, ← read (room - 1) raw)
    return Table.ofList found
  | _, _ => none

/-- Any value. -/
def readValue : RawReader Json := fun room raw => raw.value? room

/-- A field of a record: its key, and how its text changes the record. -/
structure RecordField (σ : Type) where
  key : String
  put : Nat → Raw → σ → Option σ

/-- A field that is read and stored. -/
def fieldOf {σ α : Type} (key : String) (read : RawReader α) (store : σ → α → σ) :
    RecordField σ where
  key := key
  put room raw target := (read room raw).map (store target)

/-- Takes over one member of an object; `seen` holds the known keys that were met before. -/
def putMember {σ : Type} (fields : List (RecordField σ)) (room : Nat) (state : σ × List String)
    (member : List StringPiece × Raw) : Option (σ × List String) := do
  let key ← Json.piecesString? member.1
  match fields.find? (·.key = key) with
  | none => return state
  | some field =>
    if state.2.contains key then none
    else return (← field.put room member.2 state.1, key :: state.2)

/-- A record with the given fields; fields that are left out keep their value in `start`. -/
def readRecord {σ : Type} (fields : List (RecordField σ)) (start : σ) : RawReader σ
  | room, .obj members =>
    (members.foldlM (putMember fields (room - 1)) (start, [])).map Prod.fst
  | room, .arr items =>
    if items.length ≤ fields.length then
      (fields.zip items).foldlM (fun target (field, raw) => field.put (room - 1) raw target) start
    else none
  | _, _ => none

/-- One type name or a list of them. -/
def readValueType : RawReader (List String)
  | room, .str pieces => (readString room (.str pieces)).map ([·])
  | room, raw => readList readString room raw

/-- Parameters or results: `null` describes nothing. -/
def readShape : RawReader CallShape := fun room raw =>
  (readOptional (readMap readValue) room raw).map fun
    | none => .void
    | some members => .named members

/-- The fields of an attribute. -/
def attributeFields : List (RecordField Attribute) := [
  fieldOf "type" (readOptional readValueType) fun a v => { a with valueType := v },
  fieldOf "desc" readString fun a v => { a with description := v },
  fieldOf "default" (readOptional readValue) fun a v => { a with defaultValue := v },
  fieldOf "values" (readOptional (readList readString)) fun a v => { a with acceptedLiterals := v },
  fieldOf "examples" (readOptional (readList readString)) fun a v => { a with examples := v },
  fieldOf "category" (readOptional readString) fun a v => { a with category := v },
  fieldOf "internal" readBool fun a v => { a with internal := v },
  fieldOf "params" readShape fun a v => { a with parameters := v },
  fieldOf "returns" readShape fun a v => { a with result := v }]

/-- An attribute. -/
def readAttribute : RawReader Attribute := readRecord attributeFields {}

/-- The fields of a component. -/
def componentFields : List (RecordField Component) := [
  fieldOf "internal" readBool fun c v => { c with internal := v },
  fieldOf "props" (readMap readAttribute) fun c v => { c with props := v },
  fieldOf "slots" (readMap readAttribute) fun c v => { c with slots := v },
  fieldOf "events" (readMap readAttribute) fun c v => { c with events := v },
  fieldOf "methods" (readMap readAttribute) fun c v => { c with methods := v },
  fieldOf "mixins" (readList readString) fun c v => { c with mixins := v },
  fieldOf "meta" (readOptional readValue) fun c v => { c with metadata := v }]

/-- A table of components. -/
def readComponents : RawReader (Table Component) :=
  readMap (readRecord componentFields {})

/-- The fields of the generic lists. -/
def genericFields : List (RecordField GenericLists) := [
  fieldOf "props" (readList readString) fun g v => { g with props := v },
  fieldOf "slots" (readList readString) fun g v => { g with slots := v },
  fieldOf "events" (readList readString) fun g v => { g with events := v },
  fieldOf "methods" (readList readString) fun g v => { g with methods := v }]

/-- The generic lists. -/
def readGeneric : RawReader GenericLists := readRecord genericFields {}

/-- A list of names. -/
def readNames : RawReader (List String) := readList readString

/-- A map between names. -/
def readNameMap : RawReader (Table String) := readMap readString

/-- Reads a whole text. -/
def decode? {α : Type} (read : RawReader α) (text : Text) : Option α :=
  (Json.readRaw? text).bind (read Json.nestingLimit)

end FluentAssist.Knowledge
