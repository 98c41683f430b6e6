import FluentAssist.Text.Digits
import FluentAssist.Text.Utf8

/-!
# Percent encoding

In an address, characters that would be misread are written as a percent sign and two hexadecimal
digits per byte. Which characters those are depends on the part of the address; control characters
and everything beyond ASCII always are.
-/

set_option autoImplicit false

namespace FluentAssist.Url

/-- Control characters and characters beyond ASCII. -/
def isControl (c : Char) : Bool := c.toNat < 0x20 || 0x7E < c.toNat

/-- Characters encoded in a fragment. -/
def inFragmentSet (c : Char) : Bool :=
  isControl c || [' ', '"', '<', '>', '\x60'].contains c

/-- Characters encoded in a path. -/
def inPathSet (c : Char) : Bool :=
  inFragmentSet c || ['#', '?', '\x7b', '\x7d'].contains c

/-- Characters encoded in one segment of the path of a file. -/
def inSegmentSet (c : Char) : Bool := inPathSet c || ['/', '%', '\\'].contains c

/-- Characters encoded in a query. -/
def inQuerySet (c : Char) : Bool := isControl c || [' ', '"', '#', '<', '>'].contains c

/-- Characters encoded in the query of a scheme with hosts. -/
def inSpecialQuerySet (c : Char) : Bool := inQuerySet c || c == '\''

/-- Characters encoded in names and passwords. -/
def inUserSet (c : Char) : Bool :=
  inPathSet c || ['/', ':', ';', '=', '@', '[', '\\', ']', '^', '|'].contains c

/-- An upper-case hexadecimal digit. -/
def hexDigit (n : Nat) : Char := (Nat.digitChar n).toUpper

/-- A byte as a percent sign and two digits. -/
def percentByte (b : UInt8) : Text := ['%', hexDigit (b.toNat / 16), hexDigit (b.toNat % 16)]

/-- A text with the characters of a set encoded. -/
def percentEncode (inSet : Char → Bool) (text : Text) : Text :=
  text.flatMap fun c => if inSet c then (String.utf8EncodeChar c).flatMap percentByte else [c]

/-- Bytes as text, with those of a set encoded and those that are no ASCII characters. -/
def percentEncodeBytes (inSet : Char → Bool) (bytes : List UInt8) : Text :=
  bytes.flatMap fun b =>
    let c := Char.ofNat b.toNat
    if isControl c || inSet c then percentByte b else [c]

/-- The byte of two hexadecimal digits. -/
def percentValue? (high low : Char) : Option UInt8 := do
  return UInt8.ofNat ((← Text.hexValue? high) * 16 + (← Text.hexValue? low))

/-- The bytes of a text in which encoded bytes are decoded. A percent sign without two digits
stands for itself. -/
def percentDecode : Text → List UInt8
  | [] => []
  | '%' :: high :: low :: rest =>
    match percentValue? high low with
    | some b => b :: percentDecode rest
    | none => String.utf8EncodeChar '%' ++ percentDecode (high :: low :: rest)
  | c :: rest => String.utf8EncodeChar c ++ percentDecode rest

end FluentAssist.Url
