/-!
# Sizes of machine words

Numbers that a document, a message or a setting holds are bounded by the words they are kept in.
-/

set_option autoImplicit false

namespace FluentAssist

/-- The number of values of 31 bits. -/
abbrev wordSize31 : Nat := 2147483648

/-- The number of values of 32 bits. -/
abbrev wordSize32 : Nat := 4294967296

/-- The number of values of 52 bits. -/
abbrev wordSize52 : Nat := 4503599627370496

/-- The number of values of 63 bits. -/
abbrev wordSize63 : Nat := 9223372036854775808

/-- The number of values of 64 bits. -/
abbrev wordSize64 : Nat := 18446744073709551616

end FluentAssist
