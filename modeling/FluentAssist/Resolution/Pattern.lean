import FluentAssist.Text.Blank
import FluentAssist.Text.Search
import FluentAssist.Text.WordChar

/-!
# Class names in hover texts

A type analysis describes what stands at a place of a program in free text. A pattern recognises
one way of wording such a description and captures the class name in it. `Pattern.matchAt?` reads
a pattern at the start of a text and `Pattern.search?` finds the first place where it reads. For
every question there is a list of patterns, and the first of them that occurs anywhere gives the
name.
-/

set_option autoImplicit false

namespace FluentAssist

namespace Pattern

/-- Sets of characters that patterns repeat. -/
inductive CharSet
  | blank
  | word
  /-- Everything but a closing parenthesis. -/
  | insideParentheses
  deriving DecidableEq, Repr

/-- Whether a character belongs to a set. -/
def CharSet.holds : CharSet → Char → Bool
  | .blank, c => Text.isBlank c
  | .word, c => Text.isWordChar c
  | .insideParentheses, c => c != ')'

/-- A part of a pattern. -/
inductive Piece
  | literal (text : String)
  /-- One of several texts, tried in order. -/
  | oneOf (texts : List String)
  /-- A text that may be left out; it is first tried with the text. -/
  | maybe (text : String)
  /-- As many characters of a set as there are, and no fewer than `least`. -/
  | run (set : CharSet) (least : Nat)
  /-- As many word characters as there are, and at least one; they are the result. -/
  | name
  /-- The end of the text. -/
  | atEnd
  deriving DecidableEq, Repr

end Pattern

/-- A pattern is a sequence of parts. -/
abbrev Pattern := List Pattern.Piece

namespace Pattern

/-- Reads a pattern at the start of a text and gives the name that was captured last. Runs never
give characters back: in every pattern here, what follows a run cannot start with a character of
its set. -/
def matchAt? : Pattern → Text → Text → Option Text
  | [], captured, _ => some captured
  | .literal piece :: rest, captured, text =>
    match Text.dropLiteral? piece.toList text with
    | some after => matchAt? rest captured after
    | none => none
  | .oneOf pieces :: rest, captured, text =>
    pieces.findSome? fun piece =>
      match Text.dropLiteral? piece.toList text with
      | some after => matchAt? rest captured after
      | none => none
  | .maybe piece :: rest, captured, text =>
    match Text.dropLiteral? piece.toList text with
    | some after =>
      match matchAt? rest captured after with
      | some found => some found
      | none => matchAt? rest captured text
    | none => matchAt? rest captured text
  | .run set least :: rest, captured, text =>
    if least ≤ (text.takeWhile set.holds).length then
      matchAt? rest captured (text.dropWhile set.holds)
    else none
  | .name :: rest, _, text =>
    let found := text.takeWhile Text.isWordChar
    if found.isEmpty then none else matchAt? rest found (text.dropWhile Text.isWordChar)
  | .atEnd :: rest, captured, text => if text.isEmpty then matchAt? rest captured text else none

/-- The name that a pattern captures at the first place where it reads. -/
def search? (pattern : Pattern) : Text → Option Text
  | [] => matchAt? pattern [] []
  | c :: rest =>
    match matchAt? pattern [] (c :: rest) with
    | some found => some found
    | none => search? pattern rest

/-- The name that the first pattern with an occurrence captures. -/
def firstOf? (patterns : List Pattern) (text : Text) : Option Text :=
  patterns.findSome? fun pattern => search? pattern text

/-- The names of the accessors that lead to an element's classes, props and style. -/
def accessorNames : Piece := .oneOf ["classes", "props", "style"]

/-- The classes of these accessors. -/
def accessorClasses : Piece := .oneOf ["Classes", "Props", "Style"]

/-- At least one blank. -/
def blanks : Piece := .run .blank 1

/-- The type argument of an accessor's class. -/
def owner : Pattern := [.literal "[", .maybe "Self@", .name, .literal "]"]

/-- Descriptions of an accessor, as in `(property) props: Props[Self@Button]`. -/
def accessorPatterns : List Pattern := [
  [.literal "(property)", blanks, accessorNames, .literal ":", blanks, accessorClasses] ++ owner,
  [accessorNames, .literal ":", blanks, accessorClasses] ++ owner,
  [accessorNames, .literal ":", blanks, .run .word 0] ++ owner]

/-- The signature of the event method from its name on, as in `def on(...) -> Button`. -/
def eventSignature : Pattern :=
  [.literal "def on(", .run .insideParentheses 0, .literal ")", .run .blank 0, .literal "->",
    .run .blank 0, .name]

/-- Descriptions of the event method. -/
def eventPatterns : List Pattern :=
  [[.literal "(method)", blanks] ++ eventSignature, eventSignature]

/-- A described variable up to its type. -/
def variableHead : Pattern :=
  [.literal "(variable)", blanks, .run .word 0, .literal ":", blanks]

/-- Descriptions of the element itself, as in `(variable) button: Button`. -/
def variablePatterns : List Pattern := [
  variableHead ++ [.name],
  variableHead ++ [.run .word 1, .literal "[", .name, .literal "]"],
  [.literal ":", blanks, .name, .atEnd]]

/-- Descriptions of what made the element, as in `class Button(` and `-> Button`. -/
def declarationPatterns : List Pattern := [
  [.literal "class", blanks, .name, .literal "("],
  [.literal "->", blanks, .name]]

/-- The class whose accessor a text describes. -/
def accessorOwner? (text : Text) : Option Text := firstOf? accessorPatterns text

/-- The class whose event method a text describes. -/
def eventOwner? (text : Text) : Option Text := firstOf? eventPatterns text

/-- The class of the variable that a text describes. -/
def variableType? (text : Text) : Option Text := firstOf? variablePatterns text

/-- The class that a text declares or that a described function returns. -/
def declaredClass? (text : Text) : Option Text := firstOf? declarationPatterns text

end Pattern

end FluentAssist
