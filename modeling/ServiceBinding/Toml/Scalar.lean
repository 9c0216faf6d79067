import ServiceBinding.Data.Width
import ServiceBinding.Json.Reader

/-!
# Unquoted TOML values

Truth values, integers, floats, dates and times. Only integers that fit 64 bits, signed or unsigned,
and truth values have a document of their own; the others are well formed but `void`.

Whether an unquoted value is a number is told by its outline: digits, underscores between digits and
what makes a float. The number itself is read from an integer's digits only then, and an integer
whose text behind an underscore writes no number has none.
-/

namespace ServiceBinding.Toml

open Json

/-! ## Outlines of numbers -/

private def withSign (cs : List Char) : Option Char × List Char :=
  match cs with
  | c :: rest => if c = '+' || c = '-' then (some c, rest) else (none, cs)
  | [] => (none, [])

/-- Whether every underscore follows a digit and is followed by one. `before` tells whether a digit
stands in front of the text. -/
def separated (isDigit : Char → Bool) (before : Bool) : List Char → Bool
  | [] => true
  | c :: rest =>
    if c = '_' then before && rest.head?.any isDigit && separated isDigit false rest
    else separated isDigit (isDigit c) rest

/-- The value of a digit of the base. -/
def digit? (base : Nat) (c : Char) : Option Nat := (Reader.hexValue? c).filter (· < base)

private def isHexDigit (c : Char) : Bool := (Reader.hexValue? c).isSome

/-- The rest of a text after the digits and underscores in front, of which at least one is a digit.
Unless it is `padded`, no zero stands in front of another digit. -/
def decimalRest? (padded : Bool) (cs : List Char) : Option (List Char) :=
  let isPart (c : Char) : Bool := c.isDigit || c = '_'
  let part := cs.takeWhile isPart
  let count := part.countP Char.isDigit
  if count = 0 || (!padded && 2 ≤ count && part.head? = some '0') then none
  else some (cs.dropWhile isPart)

/-- The rest of a text after the whole part, the fraction and the exponent of a float. -/
def floatRest? (cs : List Char) : Option (List Char) := do
  let cs ← decimalRest? false cs
  let cs ←
    match cs with
    | '.' :: rest => decimalRest? true rest
    | cs => some cs
  match cs with
  | [] => some []
  | c :: rest => if c = 'e' || c = 'E' then decimalRest? true (withSign rest).2 else some cs

/-! ## Integers -/

/-- The number that a text of digits writes. -/
def digitsValue? (base : Nat) : List Char → Option Nat
  | [] => none
  | cs => cs.foldlM (fun acc c => (digit? base c).map (acc * base + ·)) 0

/-- The document of an integer by its digits, underscores among them. -/
def integer (base : Nat) (negative : Bool) (cs : List Char) : Document :=
  match digitsValue? base (cs.filter (· ≠ '_')) with
  | none => .void
  | some n =>
    let i : Int := if negative then -(n : Int) else n
    if -Width.bound63 ≤ i ∧ i < Width.bound64 then .number (.ofInt i) else .void

/-- The base that the letter after a leading zero stands for. -/
def base? (c : Char) : Option Nat :=
  if c = 'x' then some 16 else if c = 'o' then some 8 else if c = 'b' then some 2 else none

/-! ## Dates and times -/

/-- A number of exactly `width` digits from `low` to `high`, and the rest. -/
private def fixedWidth (width low high : Nat) (cs : List Char) : Option (Nat × List Char) :=
  let head := cs.take width
  if head.length = width && head.all Char.isDigit then
    let n := head.foldl (fun acc c => acc * 10 + (c.toNat - 48)) 0
    if low ≤ n && n ≤ high then some (n, cs.drop width) else none
  else none

/-- The days of a month. -/
def daysOf (year month : Nat) : Nat :=
  if month = 2 then
    if year % 4 = 0 && (year % 100 ≠ 0 || year % 400 = 0) then 29 else 28
  else if month = 4 || month = 6 || month = 9 || month = 11 then 30
  else 31

private def date? (cs : List Char) : Option (List Char) := do
  let (year, cs) ← fixedWidth 4 0 9999 cs
  let cs ← Reader.expect ['-'] cs
  let (month, cs) ← fixedWidth 2 1 12 cs
  let cs ← Reader.expect ['-'] cs
  let (_, cs) ← fixedWidth 2 1 (daysOf year month) cs
  return cs

private def time? (cs : List Char) : Option (List Char) := do
  let (_, cs) ← fixedWidth 2 0 23 cs
  let cs ← Reader.expect [':'] cs
  let (_, cs) ← fixedWidth 2 0 59 cs
  match cs with
  | ':' :: rest =>
    let (_, cs) ← fixedWidth 2 0 60 rest
    match cs with
    | '.' :: rest =>
      match Reader.digits rest with
      | ([], _) => none
      | (_, rest) => some rest
    | _ => some cs
  | _ => some cs

private def offset? (cs : List Char) : Option (List Char) :=
  match cs with
  | c :: rest =>
    if c = 'Z' || c = 'z' then some rest
    else if c = '+' || c = '-' then do
      let (_, cs) ← fixedWidth 2 0 23 rest
      let cs ← Reader.expect [':'] cs
      let (_, cs) ← fixedWidth 2 0 59 cs
      return cs
    else none
  | [] => some []

/-- Whether an unquoted value is a date, a time or both. -/
def isDateTime (cs : List Char) : Bool :=
  match date? cs with
  | some [] => true
  | some (c :: rest) =>
    (c = 'T' || c = 't' || c = ' ') && ((time? rest).bind offset?) = some []
  | none => time? cs = some []

/-! ## All values -/

/-- The document of an integer, float, date or time, which begins with a decimal digit behind the
sign, if there is one. -/
private def decimal? (sign : Option Char) (cs : List Char) : Option Document :=
  let rest := cs.dropWhile Char.isDigit
  let isMark (c : Char) : Bool := c = '.' || c = 'e' || c = 'E'
  if !(cs.head?.any Char.isDigit) then none
  else if rest.head? = some '-' || rest.head? = some ':' then
    if sign.isNone && isDateTime cs then some .void else none
  else if rest.any isMark then
    if floatRest? cs = some [] && separated Char.isDigit false cs then some .void else none
  else if (rest.isEmpty || rest.head? = some '_') && !(cs.head? = some '0' && 2 ≤ cs.length) &&
      separated isHexDigit false cs then
    some (integer 10 (sign = some '-') cs)
  else none

/-- The document of an unquoted value. -/
def scalar? (cs : List Char) : Option Document :=
  if cs = ['t', 'r', 'u', 'e'] then some (.bool true)
  else if cs = ['f', 'a', 'l', 's', 'e'] then some (.bool false)
  else
    let (sign, rest) := withSign cs
    if rest = ['i', 'n', 'f'] || rest = ['n', 'a', 'n'] then some .void
    else
      match rest with
      | '0' :: c :: digits =>
        match base? c with
        | some base =>
          if sign.isNone && (digits.all fun d => d = '_' || (digit? base d).isSome) &&
              separated isHexDigit false digits then
            some (integer base false digits)
          else none
        | none => decimal? sign rest
      | _ => decimal? sign rest

end ServiceBinding.Toml
