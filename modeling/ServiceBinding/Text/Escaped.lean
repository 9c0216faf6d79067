import ServiceBinding.Text.InvisibleTable
import ServiceBinding.Text.Ranges

/-!
# Texts shown between double quotes

A shown text stands between double quotes, with quotes, backslashes and characters that would not
be seen written as escapes.
-/

namespace ServiceBinding.Text

private def hexDigits (n : Nat) : List Char := Nat.toDigits 16 n

/-- The written form of one character inside double quotes. -/
def escapeChar (c : Char) : List Char :=
  if c = '"' then ['\\', '"']
  else if c = '\\' then ['\\', '\\']
  else if c.toNat = 0 then ['\\', '0']
  else if c = '\t' then ['\\', 't']
  else if c = '\n' then ['\\', 'n']
  else if c = '\r' then ['\\', 'r']
  else if c.toNat < 32 || inRanges invisibleRanges c then
    ['\\', 'u', Char.ofNat 123] ++ hexDigits c.toNat ++ [Char.ofNat 125]
  else [c]

/-- The text between double quotes, escaped. -/
def quoted (s : String) : String :=
  String.ofList ('"' :: s.toList.flatMap escapeChar ++ ['"'])

end ServiceBinding.Text
