/-!
# Widths of integers

The bounds of the integers that fit a word of 32 or 64 bits.
-/

namespace ServiceBinding.Width

/-- Unsigned integers of 32 bits are below this number. -/
abbrev bound32 : Nat := 4294967296

/-- Unsigned integers of 64 bits are below this number. -/
abbrev bound64 : Nat := 18446744073709551616

/-- Signed integers of 64 bits are below this number, and not below its negative. -/
abbrev bound63 : Nat := 9223372036854775808

end ServiceBinding.Width
