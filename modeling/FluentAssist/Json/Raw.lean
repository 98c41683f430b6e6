import FluentAssist.Json.Value

/-!
# JSON texts as written

`Raw` is the tree of a JSON text before its leaves are judged: numbers are still digits, and a
string may hold half of a surrogate pair. A reader that skips a part of a text only needs this
tree, while a reader that wants the value also needs every leaf to have one (`Raw.value?`).
-/

set_option autoImplicit false

namespace FluentAssist.Json

/-- A number as written. -/
structure NumberText where
  negative : Bool
  whole : Text
  fraction : Text
  /-- Sign (`true` for a minus) and digits of the exponent. -/
  exponent : Option (Bool × Text)
  /-- Whether the number has neither a point nor an exponent. -/
  isWhole : Bool
  deriving DecidableEq, Repr

/-- A piece of a string: a character, or a four-digit escape. -/
inductive StringPiece
  | char (c : Char)
  | unit (code : Nat)
  deriving DecidableEq, Repr

/-- A JSON text as a tree. -/
inductive Raw
  | null
  | bool (value : Bool)
  | num (text : NumberText)
  | str (pieces : List StringPiece)
  | arr (items : List Raw)
  | obj (members : List (List StringPiece × Raw))
  deriving Repr, Inhabited

/-- Whether a code is the first half of a surrogate pair. -/
def isHighSurrogate (code : Nat) : Bool := 0xD800 ≤ code && code < 0xDC00

/-- Whether a code is the second half of a surrogate pair. -/
def isLowSurrogate (code : Nat) : Bool := 0xDC00 ≤ code && code < 0xE000

/-- The text of a string; none when half of a surrogate pair stands alone. -/
def piecesText? : List StringPiece → Option Text
  | [] => some []
  | .char c :: rest => (piecesText? rest).map (c :: ·)
  | .unit high :: .unit low :: rest =>
    if isHighSurrogate high then
      if isLowSurrogate low then
        (piecesText? rest).map
          (Char.ofNat (0x10000 + (high - 0xD800) * 0x400 + (low - 0xDC00)) :: ·)
      else none
    else if isLowSurrogate high then none
    else (piecesText? (.unit low :: rest)).map (Char.ofNat high :: ·)
  | .unit code :: rest =>
    if isHighSurrogate code || isLowSurrogate code then none
    else (piecesText? rest).map (Char.ofNat code :: ·)

/-- The text of a string as a `String`. -/
def piecesString? (pieces : List StringPiece) : Option String :=
  (piecesText? pieces).map String.ofList

/-- The value of a decimal digit. -/
def digitValue (c : Char) : Nat := c.toNat - '0'.toNat

/-- Takes digits into a significand of 64 bits while they fit; gives the significand and the
number of digits left over. -/
def gatherDigits : Nat → Text → Nat × Nat
  | significand, [] => (significand, 0)
  | significand, d :: rest =>
    let next := significand * 10 + digitValue d
    if next < wordSize64 then gatherDigits next rest else (significand, rest.length + 1)

/-- Divides by large powers of ten until the exponent is within reach of one power. -/
def scaleDown : Nat → Float → Int → Float
  | 0, value, _ => value
  | fuel + 1, value, exponent =>
    if exponent.natAbs ≤ 308 then value / Float.ofScientific 1 false exponent.natAbs
    else if value == 0 then value
    else scaleDown fuel (value / Float.ofScientific 1 false 308) (exponent + 308)

/-- `significand · 10 ^ exponent` as a floating-point number; none when it is too large. -/
def scaled? (significand : Nat) (exponent : Int) : Option Float :=
  let value := significand.toUInt64.toFloat
  if exponent < 0 then some (scaleDown 8 value exponent)
  else if exponent ≤ 308 then
    let product := value * Float.ofScientific 1 false exponent.toNat
    if product.isInf then none else some product
  else if significand = 0 then some value
  else none

/-- The value of a number as written; none when it is too large for a floating-point number. -/
def NumberText.value? (n : NumberText) : Option Number :=
  let real (value : Float) : Number := .real (if n.negative then -value else value).toBits
  let (whole, excess) := gatherDigits 0 n.whole
  if n.isWhole && excess == 0 then
    if !n.negative then some (.int whole)
    else if whole = 0 ∨ wordSize63 < whole then some (real whole.toUInt64.toFloat)
    else some (.int (-(whole : Int)))
  else
    let (significand, dropped) := gatherDigits whole n.fraction
    let start : Int := excess - (n.fraction.length - dropped : Nat)
    match n.exponent with
    | none => (scaled? significand start).map real
    | some (minus, digits) =>
      let (exponent, _) := gatherDigits 0 digits
      if wordSize31 ≤ exponent then
        if significand ≠ 0 ∧ !minus then none else some (real 0)
      else
        (scaled? significand (if minus then start - exponent else start + exponent)).map real

mutual

/-- The value of a text that may open at most `room` arrays and objects inside one another. Of
a repeated key the last value counts. -/
def Raw.value? : Nat → Raw → Option Json
  | _, .null => some .null
  | _, .bool b => some (.bool b)
  | _, .num text => text.value?.map .num
  | _, .str pieces => (piecesString? pieces).map .str
  | 0, .arr _ => none
  | room + 1, .arr items => (rawItems? room items).map .arr
  | 0, .obj _ => none
  | room + 1, .obj members => (rawMembers? room members).map fun found => .obj (distinct found)

/-- The values of all items. -/
def rawItems? : Nat → List Raw → Option (List Json)
  | _, [] => some []
  | room, item :: items => do
    let value ← item.value? room
    return value :: (← rawItems? room items)

/-- The keys and values of all members. -/
def rawMembers? : Nat → List (List StringPiece × Raw) → Option (List (String × Json))
  | _, [] => some []
  | room, (key, item) :: members => do
    let name ← piecesString? key
    let value ← item.value? room
    return (name, value) :: (← rawMembers? room members)

end

/-- How many arrays and objects may be open inside one another. -/
def nestingLimit : Nat := 127

end FluentAssist.Json
