import FluentAssist.Text.Basic
import FluentAssist.WordSize

/-!
# Positions in lines and UTF-16 units

Editors address a document by line and by UTF-16 unit in that line, both counted from zero. This
file converts between such positions and byte offsets. A position past the end of its line means
the end of that line, and a line past the end of the document means the end of the document.

Both numbers of a position are kept in 32 bits, so in a document of `2 ^ 32` bytes or more the
position of an offset may wrap.
-/

set_option autoImplicit false

namespace FluentAssist

/-- A place in a document: line and UTF-16 unit, both from zero. -/
structure Position where
  line : Nat
  character : Nat
  deriving DecidableEq, Repr

/-- A range between two positions. -/
structure PositionRange where
  start : Position
  stop : Position
  deriving DecidableEq, Repr

namespace Text

/-- The byte offset where a line starts together with the text from there on. -/
def lineStart? : Text → Nat → Option (Nat × Text)
  | text, 0 => some (0, text)
  | [], _ + 1 => none
  | c :: rest, line + 1 =>
    (lineStart? rest (if isNewline c then line else line + 1)).map
      fun (offset, after) => (c.utf8Size + offset, after)

/-- The bytes of a line that lie before the first character boundary whose UTF-16 column is at
least `character`; all of them when the line is shorter. -/
def columnBytes : Text → Nat → Nat
  | [], _ => 0
  | c :: rest, character =>
    if character = 0 || isNewline c then 0
    else c.utf8Size + columnBytes rest (character - unitsOf c)

/-- The byte offset of a position. -/
def offsetAt (text : Text) (position : Position) : Nat :=
  match lineStart? text position.line with
  | some (start, line) => start + columnBytes line position.character
  | none => bytes text

/-- The position of a byte offset. -/
def positionAt (text : Text) (offset : Nat) : Position :=
  let before := (splitAtOffset text offset).1
  ⟨before.countP isNewline % wordSize32, units (afterLast isNewline before) % wordSize32⟩

/-- The positions of both ends of a byte range. -/
def positionRange (text : Text) (span : Span) : PositionRange :=
  ⟨positionAt text span.start, positionAt text span.stop⟩

/-- The byte offset of a line and column that are both counted from one. Zero is read as one. -/
def offsetOfLineColumn (text : Text) (line column : Nat) : Nat :=
  offsetAt text ⟨line - 1, column - 1⟩

end Text

end FluentAssist
