import FluentAssist.Text.Basic

/-!
# Snippets

A snippet is text with numbered stops: placeholders with a text of their own and choices between
options. In its written form a dollar sign, a closing brace and a backslash of plain text are
escaped by a backslash, and inside a choice also the comma and the vertical bar.
-/

set_option autoImplicit false

namespace FluentAssist

/-- A part of a snippet. -/
inductive SnippetPart
  | text (value : Text)
  | placeholder (value : Text)
  | choice (options : List Text)
  deriving DecidableEq, Repr

/-- A snippet under construction: what is written so far and the number of the next stop. -/
structure Snippet where
  written : Text
  /-- A counter of 32 bits at run time. That it wraps around is left out: it would take `2 ^ 32`
  stops, and the snippet of a candidate has at most one. -/
  nextStop : Nat
  deriving DecidableEq, Repr

namespace Snippet

/-- Nothing written yet, stops counted from one. -/
def empty : Snippet := ⟨[], 1⟩

/-- Nothing written and nothing counted yet; the first stop still has number one. -/
def blank : Snippet := ⟨[], 0⟩

/-- Characters that are escaped in plain text. -/
def isSpecial (c : Char) : Bool := c == '$' || c == '\x7d' || c == '\\'

/-- Characters that are escaped in the options of a choice. -/
def isChoiceSpecial (c : Char) : Bool := isSpecial c || c == ',' || c == '|'

/-- Text with a backslash before every special character. -/
def escape (special : Char → Bool) (text : Text) : Text :=
  text.flatMap fun c => if special c then ['\\', c] else [c]

/-- The number of the next stop; numbers start at one. -/
def stop (snippet : Snippet) : Nat := max snippet.nextStop 1

/-- The options of a choice, separated by commas. -/
def writeOptions : List Text → Text
  | [] => []
  | [option] => escape isChoiceSpecial option
  | option :: options => escape isChoiceSpecial option ++ ',' :: writeOptions options

/-- The written form of a part whose stop, if it has one, has the given number. -/
def writePart (number : Nat) : SnippetPart → Text
  | .text value => escape isSpecial value
  | .placeholder value =>
    ['$', '\x7b'] ++ Nat.toDigits 10 number ++ [':'] ++ escape isSpecial value ++ ['\x7d']
  | .choice [] => '$' :: Nat.toDigits 10 number
  | .choice options =>
    ['$', '\x7b'] ++ Nat.toDigits 10 number ++ ['|'] ++ writeOptions options ++ ['|', '\x7d']

/-- Appends a part. Plain text takes no number. -/
def add (snippet : Snippet) (part : SnippetPart) : Snippet :=
  let written := snippet.written ++ writePart snippet.stop part
  match part with
  | .text _ => ⟨written, snippet.nextStop⟩
  | .placeholder _ => ⟨written, snippet.stop + 1⟩
  | .choice _ => ⟨written, snippet.stop + 1⟩

/-- The snippet of a list of parts. -/
def ofParts (parts : List SnippetPart) : Snippet := parts.foldl add empty

end Snippet

end FluentAssist
