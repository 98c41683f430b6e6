import FluentAssist.Json.Value
import FluentAssist.Text.Blank

/-!
# Hover texts of a type analysis

A language server answers a hover request with nothing or with contents and possibly a range. The
contents come in several shapes: a marked string, a list of marked strings, or text of a markup
kind. A marked string is plain text or a block of code in a language. Records may also be written
as the list of their fields. Where shapes overlap, the first that fits counts, so two plain
strings in a list are one block of code and not two strings.

`HoverReply.text?` flattens any of these to one text; a blank text counts as none.
-/

set_option autoImplicit false

namespace FluentAssist.HoverReply

/-- The text of a marked string. -/
def markedString? : Json → Option Text
  | .str text => some text.toList
  | .arr [.str _, .str value] => some value.toList
  | value =>
    match value.get? "language", value.get? "value" with
    | some (.str _), some (.str code) => some code.toList
    | _, _ => none

/-- Whether a value names a kind of markup. -/
def isMarkupKind : Json → Bool
  | .str kind => kind = "plaintext" || kind = "markdown"
  | .obj [(kind, .null)] => kind = "plaintext" || kind = "markdown"
  | _ => false

/-- The text of a kind and a value. -/
def markupText? : Json → Json → Option Text
  | kind, .str text => if isMarkupKind kind then some text.toList else none
  | _, _ => none

/-- The text of markup. -/
def markup? : Json → Option Text
  | .arr [kind, value] => markupText? kind value
  | value => do markupText? (← value.get? "kind") (← value.get? "value")

/-- Texts joined by line breaks. -/
def joinLines : List Text → Text
  | [] => []
  | [text] => text
  | text :: rest => text ++ '\n' :: joinLines rest

/-- The texts of a list of marked strings. -/
def markedStrings? : Json → Option Text
  | .arr items => (items.mapM markedString?).map joinLines
  | _ => none

/-- The text of hover contents in any of their shapes. -/
def contentsText? (contents : Json) : Option Text :=
  match markedString? contents with
  | some text => some text
  | none =>
    match markedStrings? contents with
    | some text => some text
    | none => markup? contents

/-- A text, unless it is blank. -/
def unlessBlank (text : Text) : Option Text := if text.all Text.isBlank then none else some text

/-- Whether a value counts lines or characters. -/
def isCount (value : Json) : Bool := (value.natBelow? wordSize32).isSome

/-- Whether a value has two fields that both satisfy a condition, as a record or as a list. -/
def hasBoth (first second : String) (p : Json → Bool) : Json → Bool
  | .arr [a, b] => p a && p b
  | value =>
    match value.get? first, value.get? second with
    | some a, some b => p a && p b
    | _, _ => false

/-- Whether a value is a position. -/
def isPosition (value : Json) : Bool := hasBoth "line" "character" isCount value

/-- Whether a value is a range, or nothing. -/
def isRangeOrNull (value : Json) : Bool := value.isNull || hasBoth "start" "end" isPosition value

/-- The text in the answer to a hover request. `none` means that the answer is not understood,
`some none` that there is no hover text. -/
def text? : Json → Option (Option Text)
  | .null => some none
  | .arr [contents, range] =>
    if isRangeOrNull range then (contentsText? contents).map unlessBlank else none
  | reply =>
    match reply.get? "contents" with
    | none => none
    | some contents =>
      if isRangeOrNull ((reply.get? "range").getD .null) then
        (contentsText? contents).map unlessBlank
      else none

end FluentAssist.HoverReply
