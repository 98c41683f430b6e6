import FluentAssist.Completion.Candidate
import FluentAssist.Style.Catalog
import FluentAssist.Text.Blank
import FluentAssist.Text.LowerCase

/-!
# Completing an inline style

A style literal is a list of declarations separated by semicolons or line breaks. The part of the
current declaration before the cursor decides what is offered: property names while it has no
colon, else the values of the property before the colon.
-/

set_option autoImplicit false

namespace FluentAssist.Style

/-- What is being typed in a declaration. -/
inductive Mode
  | property
  /-- A value of the property with this lower-case name. -/
  | value (name : Text)
  deriving DecidableEq, Repr

/-- The place of the cursor in a style literal. -/
structure StylePosition where
  mode : Mode
  /-- What is typed so far, without leading white space. -/
  typed : Text
  /-- The part of the document that holds what is typed. -/
  range : Span
  deriving DecidableEq, Repr

/-- What separates declarations. -/
def isSeparator (c : Char) : Bool := c == ';' || c == '\n'

/-- The part of the current declaration before the cursor. -/
def segment (before : Text) : Text := Text.afterLast isSeparator before

/-- What a part of a declaration says: the mode, and what is typed. -/
def readSegment (part : Text) : Mode × Text :=
  match Text.splitOnce? ':' part with
  | none => (.property, Text.trimStart part)
  | some (name, value) => (.value (Text.lower (Text.trim name)), Text.trimStart value)

/-- The place of the cursor in a literal whose contents start at `start`. The cursor is moved into
the literal. -/
def locate (literal : Text) (cursor start : Nat) : StylePosition :=
  let before := (Text.splitAtOffset literal (cursor - start)).1
  let (mode, typed) := readSegment (segment before)
  let stop := start + Text.bytes before
  ⟨mode, typed, ⟨stop - Text.bytes typed, stop⟩⟩

/-- Whether a candidate contains what is typed, in any case. -/
def isOffered (typed : Text) (candidate : String) : Bool :=
  let needle := Text.lower typed
  needle.isEmpty || Text.contains (Text.lower candidate.toList) needle

/-- The labels on offer at a place. -/
def labels (position : StylePosition) : List String :=
  let all := match position.mode with
    | .property => properties
    | .value name => valuesFor (String.ofList name)
  all.filter (isOffered position.typed)

/-- The candidate of a label. A property is inserted with a colon and a blank. -/
def candidateOf (position : StylePosition) (label : String) : Candidate :=
  match position.mode with
  | .property =>
    { label := label, kind := some .property, range := some position.range
      insert := some (.text (label.toList ++ [':', ' '])) }
  | .value _ => { label := label, kind := some .value, range := some position.range }

/-- The candidates at a place, in the order of the catalog. -/
def candidates (position : StylePosition) : List Candidate :=
  numbered ((labels position).map (candidateOf position))

/-- A mode as a value. -/
def Mode.toJson : Mode → Json
  | .property => .str "Property"
  | .value name => .obj [("Value", .obj [("property", .ofText name)])]

/-- A place as a value. -/
def StylePosition.toJson (position : StylePosition) : Json :=
  .obj [
    ("mode", position.mode.toJson),
    ("typed", .ofText position.typed),
    ("range", position.range.toJson)]

end FluentAssist.Style
