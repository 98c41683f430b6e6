import FluentAssist.Text.Basic
import FluentAssist.WordSize

/-!
# The shortest decimal of a binary fraction

A 64-bit floating-point number is `m · 2 ^ q`. Its shortest decimal is the decimal with the fewest
digits that lies in the interval of reals which round to the number, and among those of that
length the nearest one. All comparisons are made with natural numbers.

`Decimal.text` writes such a decimal the way messages do: positional while at most sixteen digits
stand before the point, with a trailing `.0` for whole numbers, and in scientific form with a
signed exponent beyond.
-/

set_option autoImplicit false

namespace FluentAssist.Json

/-- The number `digits · 10 ^ exponent`. -/
structure Decimal where
  digits : Nat
  exponent : Int
  deriving DecidableEq, Repr

/-- A magnitude `mantissa · 2 ^ exponent`; `closeBelow` tells that the next smaller number is only
half as far away as the next larger one. -/
structure Binary where
  mantissa : Nat
  exponent : Int
  closeBelow : Bool
  deriving DecidableEq, Repr

/-- The magnitude encoded by the bits of a finite 64-bit floating-point number. -/
def Binary.ofBits (bits : UInt64) : Binary :=
  let field : Nat := bits.toNat / wordSize52 % 2048
  let fraction : Nat := bits.toNat % wordSize52
  if field = 0 then ⟨fraction, -1074, false⟩
  else ⟨wordSize52 + fraction, (field : Int) - 1075, fraction == 0 && 1 < field⟩

/-- Whether the sign bit is set. -/
def signBit (bits : UInt64) : Bool := bits.toNat / wordSize63 % 2 == 1

/-- Compares `a · 2 ^ p` with `b · 10 ^ k`. -/
def compareScaled (a : Nat) (p : Int) (b : Nat) (k : Int) : Ordering :=
  compare (a * Nat.pow 2 p.toNat * Nat.pow 10 (-k).toNat)
    (b * Nat.pow 10 k.toNat * Nat.pow 2 (-p).toNat)

/-- The largest `d` with `d · 10 ^ k ≤ a · 2 ^ p`. -/
def floorScaled (a : Nat) (p k : Int) : Nat :=
  a * Nat.pow 2 p.toNat * Nat.pow 10 (-k).toNat /
    (Nat.pow 10 k.toNat * Nat.pow 2 (-p).toNat)

/-- Whether the decimal `d · 10 ^ k` rounds to the number. -/
def Binary.roundsFrom (b : Binary) (d : Nat) (k : Int) : Bool :=
  let high := compareScaled (4 * b.mantissa + 2) (b.exponent - 2) d k
  let low :=
    compareScaled (4 * b.mantissa - (if b.closeBelow then 1 else 2)) (b.exponent - 2) d k
  let ends := b.mantissa % 2 == 0
  (high == .gt || (ends && high == .eq)) && (low == .lt || (ends && low == .eq))

/-- Of the two neighbours of the number on the grid of multiples of `10 ^ k` the one that rounds
to it; the nearer one if both do, and the even one at the same distance. -/
def Binary.onGrid? (b : Binary) (k : Int) : Option Nat :=
  let d := floorScaled b.mantissa b.exponent k
  match b.roundsFrom d k, b.roundsFrom (d + 1) k with
  | true, true =>
    match compareScaled (2 * b.mantissa) b.exponent (2 * d + 1) k with
    | .lt => some d
    | .gt => some (d + 1)
    | .eq => some (if d % 2 = 0 then d else d + 1)
  | true, false => some d
  | false, true => some (d + 1)
  | false, false => none

/-- The number of decimal digits before the point of `a · 2 ^ p`, found downwards from `guess`. -/
def wholeDigits (a : Nat) (p : Int) : Nat → Int → Int
  | 0, guess => guess
  | fuel + 1, guess =>
    if compareScaled a p 1 (guess - 1) == .lt then wholeDigits a p fuel (guess - 1) else guess

/-- Tries grids of more and more digits. -/
def Binary.shortestFrom (b : Binary) (whole : Int) : Nat → Nat → Decimal
  | 0, count => ⟨floorScaled b.mantissa b.exponent (whole - count), whole - count⟩
  | fuel + 1, count =>
    match b.onGrid? (whole - count) with
    | some d => ⟨d, whole - count⟩
    | none => b.shortestFrom whole fuel (count + 1)

/-- The shortest decimal that rounds to a positive number. -/
def Binary.shortest (b : Binary) : Decimal :=
  b.shortestFrom (wholeDigits b.mantissa b.exponent 640 310) 17 1

/-- Moves the trailing zeros of the digits into the exponent. -/
def Decimal.trim : Nat → Decimal → Decimal
  | 0, d => d
  | fuel + 1, d =>
    if d.digits ≠ 0 ∧ d.digits % 10 = 0 then
      Decimal.trim fuel ⟨d.digits / 10, d.exponent + 1⟩
    else d

/-- A decimal as text: positional while the point lies within sixteen digits, or up to four zeros
follow it, else scientific. -/
def Decimal.text (decimal : Decimal) : Text :=
  let d := Decimal.trim 20 decimal
  let digits := Nat.toDigits 10 d.digits
  let point : Int := digits.length + d.exponent
  if 0 ≤ d.exponent ∧ point ≤ 16 then
    digits ++ List.replicate d.exponent.toNat '0' ++ ['.', '0']
  else if 0 < point ∧ point ≤ 16 then
    digits.take point.toNat ++ ['.'] ++ digits.drop point.toNat
  else if -5 < point ∧ point ≤ 0 then
    ['0', '.'] ++ List.replicate (-point).toNat '0' ++ digits
  else
    let mantissa := match digits with
      | first :: second :: rest => first :: '.' :: second :: rest
      | other => other
    mantissa ++ (if 0 < point then ['e', '+'] else ['e']) ++ (toString (point - 1)).toList

/-- The text of a finite 64-bit floating-point number. -/
def realText (bits : UInt64) : Text :=
  let magnitude := Binary.ofBits bits
  let unsigned := if magnitude.mantissa = 0 then ['0', '.', '0'] else magnitude.shortest.text
  if signBit bits then '-' :: unsigned else unsigned

end FluentAssist.Json
