/-!
# Texts and byte offsets

A document is held as the list of its characters. Offsets into it count the bytes of its UTF-8
form, so an offset may fall inside a character; every operation first moves such an offset down
to the start of that character.

`splitAtOffset` is the one place where an offset is turned into a place between two characters.
`floorOffset`, `shiftChars`, `lineBounds` and `Span.slice` are read off from it.
-/

set_option autoImplicit false

namespace FluentAssist

/-- A text is the sequence of its characters. -/
abbrev Text := List Char

namespace Text

/-- The length of a text in bytes of UTF-8. -/
def bytes : Text → Nat
  | [] => 0
  | c :: rest => c.utf8Size + bytes rest

/-- The number of UTF-16 code units of a character. -/
def unitsOf (c : Char) : Nat := if c.toNat < 0x10000 then 1 else 2

/-- The length of a text in UTF-16 code units. -/
def units : Text → Nat
  | [] => 0
  | c :: rest => unitsOf c + units rest

/-- Splits a text at a byte offset. The first part is the longest beginning of the text that is
made of whole characters and has at most `offset` bytes. -/
def splitAtOffset : Text → Nat → Text × Text
  | [], _ => ([], [])
  | c :: rest, offset =>
    if c.utf8Size ≤ offset then
      let (before, after) := splitAtOffset rest (offset - c.utf8Size)
      (c :: before, after)
    else ([], c :: rest)

/-- The largest character boundary that is not after `offset`. -/
def floorOffset (text : Text) (offset : Nat) : Nat := bytes (splitAtOffset text offset).1

/-- Moves an offset by `delta` characters and stops at either end of the text. -/
def shiftChars (text : Text) (offset : Nat) (delta : Int) : Nat :=
  let (before, after) := splitAtOffset text offset
  if 0 ≤ delta then bytes before + bytes (after.take delta.toNat)
  else bytes (before.take (before.length - delta.natAbs))

/-- The end of a list after the last element that satisfies `p`; the whole list if none does. -/
def afterLast {α : Type} (p : α → Bool) (list : List α) : List α :=
  (list.reverse.takeWhile (fun c => !p c)).reverse

/-- The beginning of a text before the first character that satisfies `p`. -/
def beforeFirst (p : Char → Bool) (text : Text) : Text := text.takeWhile (fun c => !p c)

/-- Line breaks are single line feeds. -/
def isNewline (c : Char) : Bool := c == '\n'

/-- The empty text takes no bytes. -/
@[simp] theorem bytes_nil : bytes [] = 0 := rfl

/-- The first character adds its own bytes. -/
@[simp] theorem bytes_cons (c : Char) (rest : Text) :
    bytes (c :: rest) = c.utf8Size + bytes rest := rfl

/-- The bytes of two texts one after the other add up. -/
@[simp] theorem bytes_append (a b : Text) : bytes (a ++ b) = bytes a + bytes b := by
  induction a with
  | nil => simp
  | cons c rest ih => simp [ih, Nat.add_assoc]

/-- The code units of two texts one after the other add up. -/
@[simp] theorem units_append (a b : Text) : units (a ++ b) = units a + units b := by
  induction a with
  | nil => simp [units]
  | cons c rest ih => simp [units, ih, Nat.add_assoc]

/-- Splitting loses nothing. -/
theorem splitAtOffset_append (text : Text) (offset : Nat) :
    (splitAtOffset text offset).1 ++ (splitAtOffset text offset).2 = text := by
  induction text generalizing offset with
  | nil => rfl
  | cons c rest ih =>
    by_cases h : c.utf8Size ≤ offset
    · simp [splitAtOffset, h, ih]
    · simp [splitAtOffset, h]

/-- The first part of a split has at most as many bytes as asked for. -/
theorem bytes_splitAtOffset_le (text : Text) (offset : Nat) :
    bytes (splitAtOffset text offset).1 ≤ offset := by
  induction text generalizing offset with
  | nil => simp [splitAtOffset]
  | cons c rest ih =>
    by_cases h : c.utf8Size ≤ offset
    · have hrest := ih (offset - c.utf8Size)
      simp only [splitAtOffset, h, if_true, bytes_cons]
      omega
    · simp [splitAtOffset, h]

/-- Splitting at the end of a beginning gives that beginning back. -/
theorem splitAtOffset_bytes (before after : Text) :
    splitAtOffset (before ++ after) (bytes before) = (before, after) := by
  induction before with
  | nil =>
    cases after with
    | nil => rfl
    | cons c rest =>
      have hpos : ¬ c.utf8Size ≤ 0 := by
        have := Char.utf8Size_pos c
        omega
      simp [splitAtOffset, hpos]
  | cons c rest ih =>
    have hle : c.utf8Size ≤ c.utf8Size + bytes rest := Nat.le_add_right _ _
    simp [splitAtOffset, hle, ih]

end Text

/-- A byte range of a document; `stop` is exclusive. -/
structure Span where
  start : Nat
  stop : Nat
  deriving DecidableEq, Repr

namespace Span

/-- The empty range at an offset. -/
def empty (offset : Nat) : Span := ⟨offset, offset⟩

/-- The range moved up by a number of bytes. -/
def shift (span : Span) (by_ : Nat) : Span := ⟨span.start + by_, span.stop + by_⟩

/-- The text a range covers, or nothing when an end lies outside the text, inside a character or
before the start. -/
def slice (span : Span) (text : Text) : Text :=
  let (before, rest) := Text.splitAtOffset text span.start
  let (covered, _) := Text.splitAtOffset rest (span.stop - span.start)
  if Text.bytes before = span.start ∧ span.start + Text.bytes covered = span.stop then covered
  else []

end Span

namespace Text

/-- The byte range of the line that contains `offset`, without its line break. -/
def lineBounds (text : Text) (offset : Nat) : Span :=
  let (before, after) := splitAtOffset text offset
  let cursor := bytes before
  ⟨cursor - bytes (afterLast isNewline before), cursor + bytes (beforeFirst isNewline after)⟩

end Text

end FluentAssist
