/-!
# Replacing in texts

Every occurrence of one text in another is replaced, from left to right.
-/

namespace ServiceBinding.Text

/-- The text with every occurrence of `old` replaced by `new`, the first `passed` characters left
out, which belong to an occurrence already replaced. -/
def replaceChars (old new : List Char) : Nat → List Char → List Char
  | _, [] => []
  | passed + 1, _ :: cs => replaceChars old new passed cs
  | 0, c :: cs =>
    if old.isPrefixOf (c :: cs) then new ++ replaceChars old new (old.length - 1) cs
    else c :: replaceChars old new 0 cs

/-- The text with every occurrence of `old` replaced by `new`. -/
def replace (old new : String) (s : String) : String :=
  String.ofList (replaceChars old.toList new.toList 0 s.toList)

end ServiceBinding.Text
