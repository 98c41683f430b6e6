import FluentAssist.Text.Basic

/-!
# White space

The characters with the white-space property of the Unicode standard, and trimming by them.
-/

set_option autoImplicit false

namespace FluentAssist.Text

/-- White space: tab to carriage return, space, next line, no-break space, and the spaces and
separators of the general punctuation and ideographic blocks. -/
def isBlank (c : Char) : Bool :=
  let code := c.toNat
  (9 ≤ code && code ≤ 13) || code == 0x20 || code == 0x85 || code == 0xA0 || code == 0x1680 ||
    (0x2000 ≤ code && code ≤ 0x200A) || code == 0x2028 || code == 0x2029 || code == 0x202F ||
    code == 0x205F || code == 0x3000

/-- A text without its leading white space. -/
def trimStart (text : Text) : Text := text.dropWhile isBlank

/-- A text without its trailing white space. -/
def trimEnd (text : Text) : Text := (text.reverse.dropWhile isBlank).reverse

/-- A text without white space at either end. -/
def trim (text : Text) : Text := trimEnd (trimStart text)

end FluentAssist.Text
