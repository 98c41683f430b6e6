import FluentAssist.Text.Basic

/-!
# Digits

Numbers in bases up to sixteen, with ASCII digits and letters in either case.
-/

set_option autoImplicit false

namespace FluentAssist.Text

/-- The value of a hexadecimal digit. -/
def hexValue? (c : Char) : Option Nat :=
  if c.isDigit then some (c.toNat - '0'.toNat)
  else if 'a' ≤ c ∧ c ≤ 'f' then some (c.toNat - 'a'.toNat + 10)
  else if 'A' ≤ c ∧ c ≤ 'F' then some (c.toNat - 'A'.toNat + 10)
  else none

/-- A number in the given base; none without digits or with others. -/
def readBase? (base : Nat) (digits : Text) : Option Nat :=
  if digits.isEmpty then none
  else
    digits.foldlM
      (fun value c => do
        let d ← hexValue? c
        if d < base then some (value * base + d) else none)
      0

end FluentAssist.Text
