import FluentAssist.Text.Basic

/-!
# Searching in texts

Fixed pieces of text are recognised at the start of a text (`dropLiteral?`), anywhere in it
(`contains`), or at the first place that satisfies a condition (`findPlace?`).
-/

set_option autoImplicit false

namespace FluentAssist.Text

/-- What follows a fixed piece of text, if the text starts with it. -/
def dropLiteral? : Text → Text → Option Text
  | [], text => some text
  | _ :: _, [] => none
  | p :: piece, c :: rest => if p = c then dropLiteral? piece rest else none

/-- Whether a text starts with a fixed piece. -/
def startsWith (text piece : Text) : Bool := (dropLiteral? piece text).isSome

/-- Whether a fixed piece occurs in a text. -/
def contains : Text → Text → Bool
  | [], piece => piece.isEmpty
  | c :: rest, piece => startsWith (c :: rest) piece || contains rest piece

/-- Whether a text ends with a fixed piece. -/
def endsWith (text piece : Text) : Bool := startsWith text.reverse piece.reverse

/-- The parts of a text before and after the first occurrence of a separator. -/
def splitOnce? (separator : Char) : Text → Option (Text × Text)
  | [] => none
  | c :: rest =>
    if c = separator then some ([], rest)
    else (splitOnce? separator rest).map fun (before, after) => (c :: before, after)

/-- The parts of a list between separators; always at least one. -/
def pieces {α : Type} [DecidableEq α] (separator : α) : List α → List (List α)
  | [] => [[]]
  | c :: rest =>
    if c = separator then [] :: pieces separator rest
    else
      match pieces separator rest with
      | part :: parts => (c :: part) :: parts
      | [] => [[c]]

/-- Replaces the first occurrence of a piece. -/
def replaceFirst (piece by_ : Text) : Text → Text
  | [] => if piece.isEmpty then by_ else []
  | c :: rest =>
    match dropLiteral? piece (c :: rest) with
    | some after => by_ ++ after
    | none => c :: replaceFirst piece by_ rest

/-- The first place of a text where `f` answers. `f` sees the character before the place and the
text from there on; the result carries the number of bytes before the place. -/
def findPlace? {α : Type} (f : Option Char → Text → Option α) :
    Option Char → Text → Option (Nat × α)
  | previous, [] => (f previous []).map fun a => (0, a)
  | previous, c :: rest =>
    match f previous (c :: rest) with
    | some a => some (0, a)
    | none => (findPlace? f (some c) rest).map fun (offset, a) => (c.utf8Size + offset, a)

end FluentAssist.Text
