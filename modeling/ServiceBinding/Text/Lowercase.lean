import ServiceBinding.Text.CaseTable
import ServiceBinding.Text.Ranges

/-!
# Lower case

The full lower-case form of a text under the Unicode rules that depend on no language: each
character by its mapping, except that a capital sigma at the end of a word becomes `ς`.
-/

namespace ServiceBinding.Text

def isCaseIgnorable (c : Char) : Bool := inRanges caseIgnorableRanges c

def isCased (c : Char) : Bool := inRanges casedRanges c

/-- The lower-case mapping of one character, without regard to its neighbours. -/
def lowerChar (c : Char) : List Char :=
  let n := c.toNat
  if n < 128 then [c.toLower]
  else if n = 0x130 then ['i', Char.ofNat 0x307]
  else
    match lowerRuns.find? fun r => r.1 ≤ n && n ≤ r.2.1 && (n - r.1) % r.2.2.1 = 0 with
    | some r => [Char.ofNat (r.2.2.2 + (n - r.1))]
    | none => [c]

/-- Whether the first character that is not case-ignorable is a cased one. -/
def startsCased (cs : List Char) : Bool :=
  match cs.dropWhile isCaseIgnorable with
  | c :: _ => isCased c
  | [] => false

/-- Lower case of `cs`, which follows the characters `before` (nearest first). -/
def lowerFrom (before : List Char) : List Char → List Char
  | [] => []
  | c :: rest =>
    let mapped :=
      if c = 'Σ' then
        if startsCased before && !startsCased rest then ['ς'] else ['σ']
      else lowerChar c
    mapped ++ lowerFrom (c :: before) rest

def lowercase (s : String) : String := String.ofList (lowerFrom [] s.toList)

end ServiceBinding.Text
