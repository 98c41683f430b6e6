/-!
# Sets of code points as ranges

A character class of the Unicode standard is a few hundred ranges of code points. This file has
the type of such tables and the lookup in them.
-/

set_option autoImplicit false

namespace FluentAssist.Text

/-- Inclusive ranges of code points. -/
abbrev Ranges := List (Nat × Nat)

/-- Whether a code point lies in one of the ranges. -/
def Ranges.holds (ranges : Ranges) (code : Nat) : Bool :=
  ranges.any fun range => range.1 ≤ code && code ≤ range.2

end FluentAssist.Text
