import FluentAssist.Text.Basic
import FluentAssist.Text.CodeShownRanges

/-!
# Quoted texts for people

How a text is shown on a terminal: in double quotes, with the usual short escapes, and with every
character that has no glyph of its own written as its code point in hexadecimal.
-/

set_option autoImplicit false

namespace FluentAssist.Text

/-- A number in lower-case hexadecimal digits. -/
def hexDigits (n : Nat) : Text := Nat.toDigits 16 n

/-- Whether a character is shown by its code point. -/
def isShownByCode (c : Char) : Bool :=
  if c.toNat < 128 then c.toNat < 32 || c.toNat == 127 else codeShownRanges.holds c.toNat

/-- One character inside double quotes. -/
def quoteChar (c : Char) : Text :=
  if c = '\x00' then ['\\', '0']
  else if c = '\t' then ['\\', 't']
  else if c = '\r' then ['\\', 'r']
  else if c = '\n' then ['\\', 'n']
  else if c = '"' then ['\\', '"']
  else if c = '\\' then ['\\', '\\']
  else if isShownByCode c then ['\\', 'u', '\x7b'] ++ hexDigits c.toNat ++ ['\x7d']
  else [c]

/-- A text in double quotes. -/
def quoted (text : Text) : Text := '"' :: text.flatMap quoteChar ++ ['"']

end FluentAssist.Text
