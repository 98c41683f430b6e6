import FluentAssist.Text.Basic

/-!
# Punycode

Labels of a host name that go beyond ASCII are written in ASCII: first their ASCII characters, then
the places and code points of the others as differences in variable-length numbers of base 36.
-/

set_option autoImplicit false

namespace FluentAssist.Url.Punycode

/-- The digits of base 36: letters, then decimal digits. -/
def digit (n : Nat) : Char := Char.ofNat (if n < 26 then 'a'.toNat + n else '0'.toNat + (n - 26))

/-- The threshold of a digit at place `k`. -/
def threshold (k bias : Nat) : Nat := if k ≤ bias then 1 else min (k - bias) 26

/-- No threshold is zero, so every digit but the last leaves something smaller to write. -/
theorem one_le_threshold (k bias : Nat) : 1 ≤ threshold k bias := by
  unfold threshold
  split <;> omega

/-- Reduces a difference by whole rounds of places. -/
def reduce (delta k : Nat) : Nat :=
  if 455 < delta then reduce (delta / 35) (k + 36) else k + 36 * delta / (delta + 38)
termination_by delta
decreasing_by exact Nat.div_lt_self (by omega) (by omega)

/-- The bias after a difference. -/
def adapt (delta count : Nat) (first : Bool) : Nat :=
  let start := if first then delta / 700 else delta / 2
  reduce (start + start / count) 0

/-- A difference as digits, starting at place `k`. -/
def digitsFrom (bias k q : Nat) : Text :=
  let t := threshold k bias
  if q < t then [digit q]
  else digit (t + (q - t) % (36 - t)) :: digitsFrom bias (k + 36) ((q - t) / (36 - t))
termination_by q
decreasing_by
  have h := one_le_threshold k bias
  exact Nat.lt_of_le_of_lt (Nat.div_le_self _ _) (by omega)

/-- An encoding under way. -/
structure Progress where
  written : Text
  delta : Nat
  bias : Nat
  handled : Nat

/-- Passes one character of the label while the code point `code` is being written. -/
def pass (basic code : Nat) (progress : Progress) (c : Char) : Progress :=
  if c.toNat < code then { progress with delta := progress.delta + 1 }
  else if c.toNat = code then
    { written := progress.written ++ digitsFrom progress.bias 36 progress.delta
      delta := 0
      bias := adapt progress.delta (progress.handled + 1) (progress.handled == basic)
      handled := progress.handled + 1 }
  else progress

/-- Writes the given code points, which are ascending, from the code point `next` on. -/
def writeCodes (label : Text) (basic : Nat) : List Nat → Nat → Progress → Progress
  | [], _, progress => progress
  | code :: codes, next, progress =>
    let start := { progress with delta := progress.delta + (code - next) * (progress.handled + 1) }
    let done := label.foldl (pass basic code) start
    writeCodes label basic codes (code + 1) { done with delta := done.delta + 1 }

/-- A label in ASCII, without the mark in front of it. -/
def encode (label : Text) : Text :=
  let basic := label.filter (fun c => c.toNat < 128)
  let codes := ((label.map Char.toNat).filter (128 ≤ ·)).eraseDups.mergeSort
  let start : Progress := ⟨basic ++ (if basic.isEmpty then [] else ['-']), 0, 72, basic.length⟩
  (writeCodes label basic.length codes 128 start).written

/-- The value of a digit of base 36. -/
def digitValue? (c : Char) : Option Nat :=
  if c.isDigit then some (c.toNat - '0'.toNat + 26)
  else if c.isAlpha then some (c.toLower.toNat - 'a'.toNat)
  else none

/-- Reads a difference from place `k` on and adds it to `sum`; gives the rest of the digits. -/
def difference? (bias : Nat) : Text → Nat → Nat → Nat → Option (Nat × Text)
  | [], _, _, _ => none
  | c :: rest, k, weight, sum => do
    let d ← digitValue? c
    let t := threshold k bias
    if d < t then some (sum + d * weight, rest)
    else difference? bias rest (k + 36) (weight * (36 - t)) (sum + d * weight)

/-- Inserts the characters that the differences describe. Every step reads at least one digit. -/
def insertFrom? : Nat → Nat → Nat → Nat → Text → Text → Option Text
  | _, _, _, _, done, [] => some done
  | 0, _, _, _, _, _ :: _ => none
  | steps + 1, bias, code, place, done, digits => do
    let (sum, rest) ← difference? bias digits 36 1 place
    let count := done.length + 1
    let next := code + sum / count
    let at_ := sum % count
    if next.isValidChar then
      insertFrom? steps (adapt (sum - place) count (place == 0)) next (at_ + 1)
        (done.insertIdx at_ (Char.ofNat next)) rest
    else none

/-- The label of a written form without the mark in front of it. A hyphen ends the ASCII
characters only if there are any. -/
def decode? (written : Text) : Option Text :=
  let digits := Text.afterLast (· == '-') written
  let basic := written.take (written.length - digits.length - 1)
  if basic.isEmpty then insertFrom? written.length 72 128 0 [] written
  else insertFrom? digits.length 72 128 0 basic digits

end FluentAssist.Url.Punycode
