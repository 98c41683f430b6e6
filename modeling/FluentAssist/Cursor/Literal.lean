import FluentAssist.Cursor.OpenCall

/-!
# The string literal around the cursor

A line is scanned from its start. Outside a literal either quotation mark opens one; inside, a
backslash skips the next character and the same quotation mark closes it. The literal around a
column is the closed literal whose contents reach from the column or before to the column or
beyond.
-/

set_option autoImplicit false

namespace FluentAssist.Cursor

/-- Where a scan of a line stands: outside a literal, inside one, or after a backslash inside one.
A literal is known by its quotation mark and the offset of its contents. -/
inductive LiteralScan
  | outside
  | inside (quote : Char) (start : Nat)
  | escaped (quote : Char) (start : Nat)
  deriving DecidableEq, Repr

/-- The contents of the literal around a column, searched from byte `offset` of a line on. Once a
literal opens at or after the column none is around it. -/
def literalFrom? (column : Nat) : LiteralScan → Nat → Text → Option Span
  | _, _, [] => none
  | .outside, offset, c :: rest =>
    if isQuote c then
      if column ≤ offset then none
      else literalFrom? column (.inside c (offset + 1)) (offset + c.utf8Size) rest
    else literalFrom? column .outside (offset + c.utf8Size) rest
  | .escaped quote start, offset, c :: rest =>
    literalFrom? column (.inside quote start) (offset + c.utf8Size) rest
  | .inside quote start, offset, c :: rest =>
    if c = '\\' then literalFrom? column (.escaped quote start) (offset + c.utf8Size) rest
    else if c = quote then
      if start ≤ column ∧ column ≤ offset then some ⟨start, offset⟩
      else literalFrom? column .outside (offset + c.utf8Size) rest
    else literalFrom? column (.inside quote start) (offset + c.utf8Size) rest

/-- The contents of the literal around a column of a line. -/
def literalAt? (line : Text) (column : Nat) : Option Span := literalFrom? column .outside 0 line

end FluentAssist.Cursor
