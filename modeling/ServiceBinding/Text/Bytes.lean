import ServiceBinding.Text.Escaped

/-!
# Byte positions

A position in a text is the number of bytes before it when the text is encoded in UTF-8. A text is
cut only between two characters.
-/

namespace ServiceBinding.Text

/-- The number of bytes of a text. -/
def width : List Char → Nat
  | [] => 0
  | c :: cs => c.utf8Size + width cs

/-- A byte position inside a character. -/
structure InnerPosition where
  position : Nat
  character : Char
  /-- Where the character starts. -/
  start : Nat
  deriving DecidableEq, Inhabited

/-- Why nothing is cut at the position, which is the start or the end of a range. -/
def InnerPosition.message (isStart : Bool) (p : InnerPosition) : String :=
  (if isStart then "start" else "end") ++ " byte index " ++ toString p.position ++
    " is not a char boundary; it is inside " ++ String.singleton (Char.ofNat 39) ++
    String.ofList (escapeChar p.character) ++ String.singleton (Char.ofNat 39) ++
    " (bytes " ++ toString p.start ++ ".." ++
    toString (p.start + p.character.utf8Size) ++ " of string)"

/-- The text before a position and the text from there on, for a text that itself starts at the
position `start`. -/
def cut (start position : Nat) : List Char → Except InnerPosition (List Char × List Char)
  | [] => .ok ([], [])
  | c :: cs =>
    if position ≤ start then .ok ([], c :: cs)
    else if position < start + c.utf8Size then .error ⟨position, c, start⟩
    else (cut (start + c.utf8Size) position cs).map fun (before, after) => (c :: before, after)

/-- The range of a text between two positions, or why there is none. -/
def slice (start stop : Nat) (cs : List Char) : Except String (List Char) :=
  match cut 0 start cs with
  | .error p => .error (p.message true)
  | .ok (_, rest) =>
    match cut start stop rest with
    | .error p => .error (p.message false)
    | .ok (range, _) => .ok range

end ServiceBinding.Text
