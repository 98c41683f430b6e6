import FluentAssist.Json.Raw
import FluentAssist.Text.Digits

/-!
# Reading JSON

A JSON text is read to its tree (`readRaw?`) and then to its value (`read?`). Blanks are space,
tab, line feed and carriage return; nothing but blanks may surround the value.

Every function returns what it read and the rest of the text. The mutual readers take the number
of steps they may make. Two nested steps consume at least one character, so `readRaw?` allows twice
as many steps as the text has characters, and two for the end.
-/

set_option autoImplicit false

namespace FluentAssist.Json

/-- The blanks between the parts of a JSON text. -/
def isSpace (c : Char) : Bool := c == ' ' || c == '\t' || c == '\n' || c == '\r'

/-- The text after its leading blanks. -/
def skipSpace (text : Text) : Text := text.dropWhile isSpace

/-- The value of four hexadecimal digits. -/
def hexFour? (a b c d : Char) : Option Nat :=
  Text.readBase? 16 [a, b, c, d]

/-- The character a short escape stands for. -/
def shortEscape? (c : Char) : Option Char :=
  if c = '"' ∨ c = '\\' ∨ c = '/' then some c
  else if c = 'b' then some '\x08'
  else if c = 'f' then some '\x0c'
  else if c = 'n' then some '\n'
  else if c = 'r' then some '\r'
  else if c = 't' then some '\t'
  else none

/-- The rest of a string after its opening quote. -/
def readString? : Text → Option (List StringPiece × Text)
  | [] => none
  | '"' :: rest => some ([], rest)
  | '\\' :: 'u' :: a :: b :: c :: d :: rest => do
    let code ← hexFour? a b c d
    let (pieces, after) ← readString? rest
    return (.unit code :: pieces, after)
  | '\\' :: e :: rest => do
    let c ← shortEscape? e
    let (pieces, after) ← readString? rest
    return (.char c :: pieces, after)
  | c :: rest => do
    if c = '\\' ∨ c.toNat < 32 then none
    else
      let (pieces, after) ← readString? rest
      return (.char c :: pieces, after)

/-- A run of digits with at least one digit. -/
def readDigits? (text : Text) : Option (Text × Text) :=
  match text.takeWhile Char.isDigit with
  | [] => none
  | digits => some (digits, text.dropWhile Char.isDigit)

/-- The whole part of a number: a single zero or digits without a leading zero. -/
def readWhole? : Text → Option (Text × Text)
  | '0' :: rest =>
    match rest with
    | d :: _ => if d.isDigit then none else some (['0'], rest)
    | [] => some (['0'], [])
  | text => readDigits? text

/-- The digits after the point of a number, if there is a point. -/
def readFraction? : Text → Option (Option Text × Text)
  | '.' :: rest => (readDigits? rest).map fun (digits, after) => (some digits, after)
  | text => some (none, text)

/-- The exponent of a number, if there is one. -/
def readExponent? : Text → Option (Option (Bool × Text) × Text)
  | [] => some (none, [])
  | c :: rest =>
    if c = 'e' ∨ c = 'E' then
      let (minus, digits) := match rest with
        | '+' :: more => (false, more)
        | '-' :: more => (true, more)
        | more => (false, more)
      (readDigits? digits).map fun (found, after) => (some (minus, found), after)
    else some (none, c :: rest)

/-- A number. -/
def readNumber? (text : Text) : Option (NumberText × Text) := do
  let (negative, unsigned) := match text with
    | '-' :: rest => (true, rest)
    | rest => (false, rest)
  let (whole, afterWhole) ← readWhole? unsigned
  let (fraction, afterFraction) ← readFraction? afterWhole
  let (exponent, after) ← readExponent? afterFraction
  return (⟨negative, whole, fraction.getD [], exponent, fraction.isNone && exponent.isNone⟩, after)

/-- A word such as `null`, or a number. -/
def readScalar? (text : Text) : Option (Raw × Text) :=
  match text with
  | 'n' :: 'u' :: 'l' :: 'l' :: rest => some (.null, rest)
  | 't' :: 'r' :: 'u' :: 'e' :: rest => some (.bool true, rest)
  | 'f' :: 'a' :: 'l' :: 's' :: 'e' :: rest => some (.bool false, rest)
  | '"' :: rest => (readString? rest).map fun (pieces, after) => (.str pieces, after)
  | _ => (readNumber? text).map fun (n, after) => (.num n, after)

mutual

/-- A value after leading blanks. -/
def readValue? : Nat → Text → Option (Raw × Text)
  | 0, _ => none
  | steps + 1, text =>
    match skipSpace text with
    | '[' :: rest =>
      match skipSpace rest with
      | ']' :: after => some (.arr [], after)
      | _ => (readItems? steps rest).map fun (items, after) => (.arr items, after)
    | '\x7b' :: rest =>
      match skipSpace rest with
      | '\x7d' :: after => some (.obj [], after)
      | _ => (readMembers? steps rest).map fun (members, after) => (.obj members, after)
    | other => readScalar? other

/-- Items up to the closing bracket. -/
def readItems? : Nat → Text → Option (List Raw × Text)
  | 0, _ => none
  | steps + 1, text => do
    let (item, rest) ← readValue? steps text
    match skipSpace rest with
    | ',' :: more =>
      let (items, after) ← readItems? steps more
      return (item :: items, after)
    | ']' :: after => return ([item], after)
    | _ => none

/-- Members up to the closing brace. -/
def readMembers? : Nat → Text → Option (List (List StringPiece × Raw) × Text)
  | 0, _ => none
  | steps + 1, text =>
    match skipSpace text with
    | '"' :: name => do
      let (key, afterKey) ← readString? name
      match skipSpace afterKey with
      | ':' :: afterColon =>
        let (value, rest) ← readValue? steps afterColon
        match skipSpace rest with
        | ',' :: more =>
          let (members, after) ← readMembers? steps more
          return ((key, value) :: members, after)
        | '\x7d' :: after => return ([(key, value)], after)
        | _ => none
      | _ => none
    | _ => none

end

/-- The tree of a JSON text. -/
def readRaw? (text : Text) : Option Raw :=
  match readValue? (2 * text.length + 2) text with
  | some (raw, rest) => if (skipSpace rest).isEmpty then some raw else none
  | none => none

/-- The value of a JSON text. -/
def read? (text : Text) : Option Json := (readRaw? text).bind (Raw.value? nestingLimit)

end FluentAssist.Json
