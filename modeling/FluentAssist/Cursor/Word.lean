import FluentAssist.Text.Search
import FluentAssist.Text.WordChar

/-!
# The word at the cursor

A line is cut into tokens: maximal runs of word characters, dots, slashes, equals signs and
hyphens, and empty pairs of quotation marks. The word at the cursor is the first token that the
cursor touches; an empty pair of quotation marks counts as an empty word.
-/

set_option autoImplicit false

namespace FluentAssist.Cursor

/-- Characters of a word token. -/
def isTokenChar (c : Char) : Bool :=
  c == '.' || c == '/' || c == '=' || c == '-' || Text.isWordChar c

/-- A token of a line: its byte offset in the line and its text. -/
structure Token where
  start : Nat
  text : Text
  deriving DecidableEq, Repr

/-- The byte offset where a token ends. -/
def Token.stop (token : Token) : Nat := token.start + Text.bytes token.text

/-- Whether a text starts with an empty pair of quotation marks. -/
def startsEmptyQuotes : Text → Bool
  | a :: b :: _ => a == b && (a == '"' || a == '\'')
  | _ => false

/-- What is left after leading items are dropped is no longer than before. -/
theorem length_dropWhile_le {α : Type} (p : α → Bool) (items : List α) :
    (items.dropWhile p).length ≤ items.length := by
  induction items with
  | nil => simp
  | cons a rest ih =>
    by_cases h : p a
    · simp only [List.dropWhile_cons, h, if_true, List.length_cons]
      omega
    · simp [h]

/-- The tokens of a line that starts at byte `start`. -/
def tokens (start : Nat) (line : Text) : List Token :=
  match line with
  | [] => []
  | c :: rest =>
    if isTokenChar c then
      let run := c :: rest.takeWhile isTokenChar
      ⟨start, run⟩ :: tokens (start + Text.bytes run) (rest.dropWhile isTokenChar)
    else if startsEmptyQuotes (c :: rest) then
      ⟨start, [c, c]⟩ :: tokens (start + 2) (rest.drop 1)
    else tokens (start + c.utf8Size) rest
termination_by line.length
decreasing_by
  · have := length_dropWhile_le isTokenChar rest
    simp only [List.length_cons]
    omega
  · simp only [List.length_drop, List.length_cons]
    omega
  · simp

/-- The word of a token: empty for a pair of quotation marks. -/
def Token.word (token : Token) : Text := if startsEmptyQuotes token.text then [] else token.text

/-- The first token that touches a column. -/
def touching? (column : Nat) (found : List Token) : Option Token :=
  found.find? fun token => token.start ≤ column && column ≤ token.stop

/-- The word at a column of a line and the part of the line it covers; without one, an empty word
at the column. -/
def wordAt (line : Text) (column : Nat) : Text × Span :=
  match touching? column (tokens 0 line) with
  | some token => (token.word, ⟨token.start, token.stop⟩)
  | none => ([], Span.empty column)

end FluentAssist.Cursor
