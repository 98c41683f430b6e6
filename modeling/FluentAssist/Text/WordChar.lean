import FluentAssist.Text.Basic
import FluentAssist.Text.WordRanges

/-!
# Word characters

Words of a program are runs of letters, digits, underscores and the marks that belong to them, in
every script. A word boundary is a place where exactly one neighbour is a word character.
-/

set_option autoImplicit false

namespace FluentAssist.Text

/-- Letters, digits and the underscore of ASCII. -/
def isAsciiWordChar (c : Char) : Bool := c.isAlphanum || c == '_'

/-- Characters that may stand inside a word. -/
def isWordChar (c : Char) : Bool :=
  if c.toNat < 128 then isAsciiWordChar c else wordRanges.holds c.toNat

/-- Whether a word may start after the given character, or at the start of the text. -/
def wordMayStartAfter : Option Char → Bool
  | none => true
  | some c => !isWordChar c

end FluentAssist.Text
