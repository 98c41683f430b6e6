import FluentAssist.Text.Canonical
import FluentAssist.Text.DirectionRanges
import FluentAssist.Text.JoiningRanges
import FluentAssist.Text.MarkRanges

/-!
# Labels of domain names

A label is sound when it does not start with a mark and has invisible joiners only where they
change how letters are joined. In a domain with a letter written from right to left, every label
has to read in one direction.
-/

set_option autoImplicit false

namespace FluentAssist.Url

open Text

/-- How a character behaves in a line. -/
inductive Direction
  | left
  | right
  | arabicNumber
  | europeanNumber
  | attached
  | neutral
  deriving DecidableEq, Repr

/-- The direction of a character of a domain name. -/
def directionOf (c : Char) : Direction :=
  if c.toNat < 128 then
    if c.isDigit then .europeanNumber else if c.isAlpha then .left else .neutral
  else if rightRanges.holds c.toNat then .right
  else if arabicNumberRanges.holds c.toNat then .arabicNumber
  else if europeanNumberRanges.holds c.toNat then .europeanNumber
  else if attachedRanges.holds c.toNat then .attached
  else if neutralRanges.holds c.toNat then .neutral
  else .left

/-- Whether a label has a character that is written from right to left. -/
def runsRight (label : Text) : Bool :=
  label.any fun c => directionOf c == .right || directionOf c == .arabicNumber

/-- Whether the characters after the first one read from left to right and end so. They are given
in reverse, without marks at their end. -/
def readsLeft : List Direction → Bool
  | [] => true
  | last :: between =>
    (last == .left || last == .europeanNumber) &&
      between.all fun d => d != .right && d != .arabicNumber

/-- Whether the characters after the first one read from right to left and end so, with numbers of
one kind only. They are given in reverse, without marks at their end. -/
def readsRight : List Direction → Bool
  | [] => true
  | last :: between =>
    (last == .right || last == .arabicNumber || last == .europeanNumber) &&
      between.all (· != .left) &&
      !((last :: between).contains .arabicNumber && (last :: between).contains .europeanNumber)

/-- Whether a label reads in one direction. -/
def readsOneWay (label : Text) : Bool :=
  match label.map directionOf with
  | [] => true
  | first :: rest =>
    let ending := rest.reverse.dropWhile (· == .attached)
    match first with
    | .left => readsLeft ending
    | .right => readsRight ending
    | _ => false

/-- The class of marks that take the vowel from a consonant. -/
def viramaClass : Nat := 9

/-- Whether the first character that a join does not pass through is in a table. -/
def meetsJoining (table : Ranges) (text : Text) : Bool :=
  match text.dropWhile (joinTransparentRanges.holds ·.toNat) with
  | c :: _ => table.holds c.toNat
  | [] => false

/-- Whether a joiner has its place between the characters before it, which are reversed, and those
after it: behind a mark that takes the vowel, or, for the one that parts letters, between letters
that would be joined. -/
def joinerFits (joiner : Char) (before after : Text) : Bool :=
  before.head?.any (combiningClass · == viramaClass) ||
    (joiner == '\u200c' && meetsJoining joinsNextRanges before &&
      meetsJoining joinsPreviousRanges after)

/-- Whether all joiners of a text have their places; `before` is reversed. -/
def joinersFit (before : Text) : Text → Bool
  | [] => true
  | c :: rest =>
    (if c == '\u200c' || c == '\u200d' then joinerFits c before rest else true) &&
      joinersFit (c :: before) rest

/-- Whether a label starts with no mark and has its joiners in their places. -/
def isSoundLabel (label : Text) : Bool := !label.head?.any isMark && joinersFit [] label

end FluentAssist.Url
