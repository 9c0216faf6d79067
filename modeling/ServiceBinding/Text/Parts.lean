/-!
# Parts of a text

A text is split at every separator; what stands between two separators is a part of it.
-/

namespace ServiceBinding.Text

/-- The parts of a text between the separators in it, at least one. -/
def allParts (separator : Char) : List Char → List (List Char)
  | [] => [[]]
  | c :: cs =>
    if c = separator then [] :: allParts separator cs
    else (allParts separator cs).modifyHead (c :: ·)

/-- The parts of a text between the separators in it; empty ones are left out. -/
def parts (separator : Char) (cs : List Char) : List (List Char) :=
  (allParts separator cs).filter fun part => !part.isEmpty

end ServiceBinding.Text
