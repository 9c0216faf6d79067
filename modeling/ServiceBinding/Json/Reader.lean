import ServiceBinding.Json.Document
import ServiceBinding.Json.Numeral

/-!
# Reading JSON text

The grammar of JSON without extensions: one value, blanks around it, nothing else. What is well
formed but has no value becomes `void`, see `Document`.
-/

namespace ServiceBinding.Json.Reader

def skipBlanks : List Char → List Char
  | c :: rest => if c = ' ' || c = '\n' || c = '\t' || c = '\r' then skipBlanks rest else c :: rest
  | [] => []

/-- The rest of the text after `word`. -/
def expect (word : List Char) (cs : List Char) : Option (List Char) :=
  match word, cs with
  | [], cs => some cs
  | w :: ws, c :: rest => if w = c then expect ws rest else none
  | _ :: _, [] => none

/-- The digits a text starts with, and the rest. -/
def digits : List Char → List Nat × List Char
  | c :: rest =>
    if c.isDigit then
      let (ds, rest) := digits rest
      ((c.toNat - 48) :: ds, rest)
    else ([], c :: rest)
  | [] => ([], [])

private def wholePart (cs : List Char) : Option (List Nat × List Char) :=
  match cs with
  | '0' :: rest =>
    match rest with
    | c :: _ => if c.isDigit then none else some ([0], rest)
    | [] => some ([0], rest)
  | _ =>
    match digits cs with
    | ([], _) => none
    | found => some found

private def fractionPart (cs : List Char) : Option (Option (List Nat) × List Char) :=
  match cs with
  | '.' :: rest =>
    match digits rest with
    | ([], _) => none
    | (ds, rest) => some (some ds, rest)
  | _ => some (none, cs)

private def exponentPart (cs : List Char) : Option (Option (Bool × List Nat) × List Char) :=
  match cs with
  | c :: rest =>
    if c = 'e' || c = 'E' then
      let (negative, rest) :=
        match rest with
        | '+' :: rest => (false, rest)
        | '-' :: rest => (true, rest)
        | _ => (false, rest)
      match digits rest with
      | ([], _) => none
      | (ds, rest) => some (some (negative, ds), rest)
    else some (none, cs)
  | [] => some (none, cs)

/-- The numeral a text starts with, and the rest. -/
def numeral (cs : List Char) : Option (Numeral × List Char) := do
  let (negative, cs) :=
    match cs with
    | '-' :: rest => (true, rest)
    | _ => (false, cs)
  let (whole, cs) ← wholePart cs
  let (fraction, cs) ← fractionPart cs
  let (exponent, cs) ← exponentPart cs
  return (⟨negative, whole, fraction, exponent⟩, cs)

def hexValue? (c : Char) : Option Nat :=
  if c.isDigit then some (c.toNat - 48)
  else if 'a' ≤ c ∧ c ≤ 'f' then some (c.toNat - 87)
  else if 'A' ≤ c ∧ c ≤ 'F' then some (c.toNat - 55)
  else none

private def hexFour (a b c d : Char) : Option Nat := do
  let a ← hexValue? a
  let b ← hexValue? b
  let c ← hexValue? c
  let d ← hexValue? d
  return ((a * 16 + b) * 16 + c) * 16 + d

private def simpleEscape (c : Char) : Option Nat :=
  if c = '"' || c = '\\' || c = '/' then some c.toNat
  else if c = 'b' then some 8
  else if c = 'f' then some 12
  else if c = 'n' then some 10
  else if c = 'r' then some 13
  else if c = 't' then some 9
  else none

private def consUnit (u : Nat) (found : Option (List Nat × List Char)) :
    Option (List Nat × List Char) :=
  found.map fun (us, rest) => (u :: us, rest)

/-- The code units of a string up to its closing quote, and the rest: an escape gives its UTF-16
unit, which may be one half of a surrogate pair. -/
def stringUnits : List Char → Option (List Nat × List Char)
  | [] => none
  | '"' :: rest => some ([], rest)
  | '\\' :: 'u' :: a :: b :: c :: d :: rest =>
    match hexFour a b c d with
    | some u => consUnit u (stringUnits rest)
    | none => none
  | '\\' :: c :: rest =>
    match simpleEscape c with
    | some u => consUnit u (stringUnits rest)
    | none => none
  | c :: rest => if c.toNat < 32 then none else consUnit c.toNat (stringUnits rest)

/-- The characters of a sequence of code units, unless it has half of a surrogate pair. -/
def joinUnits : List Nat → Option (List Char)
  | [] => some []
  | u :: rest =>
    if 0xD800 ≤ u ∧ u ≤ 0xDBFF then
      match rest with
      | v :: rest =>
        if 0xDC00 ≤ v ∧ v ≤ 0xDFFF then
          (joinUnits rest).map
            (Char.ofNat (0x10000 + (u - 0xD800) * 0x400 + (v - 0xDC00)) :: ·)
        else none
      | [] => none
    else if 0xDC00 ≤ u ∧ u ≤ 0xDFFF then none
    else (joinUnits rest).map (Char.ofNat u :: ·)

/-- The string after an opening quote, and the rest. -/
def string (cs : List Char) : Option (Option String × List Char) :=
  (stringUnits cs).map fun (us, rest) => ((joinUnits us).map String.ofList, rest)

/-- The deepest nesting of arrays and objects that has a value. -/
def maxDepth : Nat := 127

mutual

/-- The document a text starts with, inside `level` arrays and objects, and the rest. -/
def document (fuel level : Nat) (cs : List Char) : Option (Document × List Char) :=
  match fuel with
  | 0 => none
  | fuel + 1 =>
    let cs := skipBlanks cs
    let nested (d : Document) : Document := if level < maxDepth then d else .void
    match cs with
    | [] => none
    | c :: rest =>
      if c = '[' then
        match skipBlanks rest with
        | ']' :: rest => some (nested (.array []), rest)
        | rest => (items fuel (level + 1) rest).map fun (ds, rest) => (nested (.array ds), rest)
      else if c = '\x7b' then
        match skipBlanks rest with
        | '\x7d' :: rest => some (nested (.object []), rest)
        | rest => (fields fuel (level + 1) rest).map fun (fs, rest) => (nested (.object fs), rest)
      else if c = '"' then
        (string rest).map fun (s, rest) =>
          (match s with
            | some s => .string s
            | none => .void, rest)
      else if c = 'n' then (expect ['u', 'l', 'l'] rest).map fun rest => (.null, rest)
      else if c = 't' then (expect ['r', 'u', 'e'] rest).map fun rest => (.bool true, rest)
      else if c = 'f' then (expect ['a', 'l', 's', 'e'] rest).map fun rest => (.bool false, rest)
      else if c = '-' || c.isDigit then
        (numeral cs).map fun (n, rest) =>
          (match n.number? with
            | some n => .number n
            | none => .void, rest)
      else none

/-- One or more items up to the closing bracket. -/
def items (fuel level : Nat) (cs : List Char) : Option (List Document × List Char) :=
  match fuel with
  | 0 => none
  | fuel + 1 =>
    match document fuel level cs with
    | none => none
    | some (d, rest) =>
      match skipBlanks rest with
      | ',' :: rest => (items fuel level rest).map fun (ds, rest) => (d :: ds, rest)
      | ']' :: rest => some ([d], rest)
      | _ => none

/-- One or more fields up to the closing brace. -/
def fields (fuel level : Nat) (cs : List Char) :
    Option (List (Option String × Document) × List Char) :=
  match fuel with
  | 0 => none
  | fuel + 1 =>
    match skipBlanks cs with
    | '"' :: rest =>
      match string rest with
      | none => none
      | some (name, rest) =>
        match skipBlanks rest with
        | ':' :: rest =>
          match document fuel level rest with
          | none => none
          | some (d, rest) =>
            match skipBlanks rest with
            | ',' :: rest =>
              (fields fuel level rest).map fun (fs, rest) => ((name, d) :: fs, rest)
            | '\x7d' :: rest => some ([(name, d)], rest)
            | _ => none
        | _ => none
    | _ => none

end

end ServiceBinding.Json.Reader

namespace ServiceBinding.Json

/-- The document written by a text. -/
def Document.read? (s : String) : Option Document :=
  let cs := s.toList
  match Reader.document (2 * cs.length + 2) 0 cs with
  | some (d, rest) => if (Reader.skipBlanks rest).isEmpty then some d else none
  | none => none

/-- The value written by a text. -/
def Value.read? (s : String) : Option Value := (Document.read? s).bind Document.toValue?

end ServiceBinding.Json
