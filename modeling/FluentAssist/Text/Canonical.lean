import FluentAssist.Text.CanonicalRuns

/-!
# Composed texts

One and the same letter with marks can be written in several ways: as one character, as a letter
and its marks, or with its marks in another order. `Text.composed` brings a text into the form
that has as few characters as possible: it takes all characters apart, puts marks into ascending
order of their classes and composes from left to right. Korean syllables are composed by arithmetic.

Characters that are never the result of a composition are not taken apart; the texts here have none.
-/

set_option autoImplicit false

namespace FluentAssist.Text

/-- The class of a character; zero for one that is no mark or keeps its place. -/
def combiningClass (c : Char) : Nat :=
  if c.toNat < 0x300 then 0
  else
    match CodeRun.find? combiningRuns c.toNat with
    | some run => run.codes.headD 0
    | none => 0

/-- Where Korean syllables and their parts begin. -/
def syllableBase : Nat := 0xAC00

/-- The first leading consonant. -/
def leadBase : Nat := 0x1100

/-- The first vowel. -/
def vowelBase : Nat := 0x1161

/-- One before the first trailing consonant. -/
def trailBase : Nat := 0x11A7

/-- The number of trailing consonants, and none. -/
def trailCount : Nat := 28

/-- The number of vowels. -/
def vowelCount : Nat := 21

/-- The number of leading consonants. -/
def leadCount : Nat := 19

/-- The number of syllables. -/
def syllableCount : Nat := leadCount * vowelCount * trailCount

/-- The parts of a Korean syllable. -/
def syllableParts? (code : Nat) : Option (List Nat) :=
  if syllableBase ≤ code ∧ code < syllableBase + syllableCount then
    let index := code - syllableBase
    let trail := index % trailCount
    let open_ := [leadBase + index / (vowelCount * trailCount),
      vowelBase + index / trailCount % vowelCount]
    some (if trail = 0 then open_ else open_ ++ [trailBase + trail])
  else none

/-- The Korean syllable of two parts. -/
def syllable? (first second : Nat) : Option Nat :=
  if leadBase ≤ first ∧ first < leadBase + leadCount ∧
      vowelBase ≤ second ∧ second < vowelBase + vowelCount then
    some (syllableBase +
      ((first - leadBase) * vowelCount + (second - vowelBase)) * trailCount)
  else if syllableBase ≤ first ∧ first < syllableBase + syllableCount ∧
      (first - syllableBase) % trailCount = 0 ∧
      trailBase < second ∧ second < trailBase + trailCount then
    some (first + (second - trailBase))
  else none

/-- No character is composed in more than this many steps. -/
def longestComposition : Nat := 3

/-- The characters that a character is composed of, taken apart in at most the given number of
steps. -/
def takenApart : Nat → Nat → List Nat
  | 0, code => [code]
  | steps + 1, code =>
    match syllableParts? code with
    | some parts => parts
    | none =>
      match CodeRun.find? compositionRuns code with
      | some run =>
        match run.codes with
        | [first, second] => takenApart steps first ++ [second]
        | _ => [code]
      | none => [code]

/-- The composition of two characters. -/
def composition? (first second : Char) : Option Char :=
  match syllable? first.toNat second.toNat with
  | some code => some (Char.ofNat code)
  | none =>
    (List.find? (fun run => run.codes == [first.toNat, second.toNat]) compositionRuns).map
      fun run => Char.ofNat run.first

/-- Puts a mark before the marks of higher classes; the text is reversed. -/
def insertMark (c : Char) : Text → Text
  | [] => [c]
  | d :: rest =>
    if 0 < combiningClass c ∧ combiningClass c < combiningClass d then d :: insertMark c rest
    else c :: d :: rest

/-- A text with its marks in ascending order of their classes. -/
def ordered (text : Text) : Text :=
  (text.foldl (fun done c => insertMark c done) []).reverse

/-- Composes a starting character with the characters that follow it. The marks that stay between
them are reversed, and a mark reaches the starting character only across marks of lower classes. -/
def composeFrom (start : Char) (marks : Text) : Text → Text
  | [] => start :: marks.reverse
  | c :: rest =>
    let isNear := marks.head?.all fun mark => combiningClass mark < combiningClass c
    match if isNear then composition? start c else none with
    | some joined => composeFrom joined marks rest
    | none =>
      if combiningClass c = 0 then (start :: marks.reverse) ++ composeFrom c [] rest
      else composeFrom start (c :: marks) rest

/-- Composes a text from left to right; marks without a character before them stay. -/
def composeAll : Text → Text
  | [] => []
  | c :: rest => if combiningClass c = 0 then composeFrom c [] rest else c :: composeAll rest

/-- The composed form of a text. -/
def composed (text : Text) : Text :=
  if text.all (fun c => c.toNat < 0x300) then text
  else
    composeAll (ordered (text.flatMap fun c =>
      (takenApart longestComposition c.toNat).map Char.ofNat))

end FluentAssist.Text
