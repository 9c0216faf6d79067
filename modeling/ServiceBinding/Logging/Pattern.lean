import ServiceBinding.Json.Reader
import ServiceBinding.Text.AlphanumericTable
import ServiceBinding.Text.Ranges

/-!
# Value patterns

A directive may compare a field with a truth value, a number or a pattern. Truth values and numbers
are patterns too, but for numbers with a plus sign, so that only the form of patterns is checked.

A pattern consists of characters, escapes, classes in brackets and groups in parentheses, any of
them repeated by `*`, `+` or `?`, and of alternatives between bars. There are no counted
repetitions, no looking around and no references to groups.
-/

namespace ServiceBinding.ValuePattern

/-! ## Escapes -/

/-- What an escape stands for. -/
inductive Escape
  | char (c : Char)
  /-- A set of characters. -/
  | set
  deriving DecidableEq

/-- The character written by `width` hexadecimal digits, and the rest. -/
private def coded? (width : Nat) (cs : List Char) : Option (Escape × List Char) := do
  let digits := cs.take width
  if digits.length < width then none
  let n ← digits.foldlM (fun acc c => (Json.Reader.hexValue? c).map (acc * 16 + ·)) 0
  if n < 0xD800 || (0xDFFF < n && n < 0x110000) then some (.char (Char.ofNat n), cs.drop width)
  else none

/-- The characters that letters behind a backslash stand for. -/
private def controls : List (Char × Char) :=
  [('a', Char.ofNat 7), ('f', Char.ofNat 12), ('t', '\t'), ('n', '\n'), ('r', '\r'),
    ('v', Char.ofNat 11)]

/-- The escape after a backslash, and the rest. -/
def escape? : List Char → Option (Escape × List Char)
  | [] => none
  | c :: rest =>
    if ['d', 's', 'w', 'D', 'S', 'W'].contains c then some (.set, rest)
    else if c = 'p' || c = 'P' then
      -- a general category by its first letter
      match rest with
      | category :: rest =>
        if ['c', 'l', 'm', 'n', 'p', 's', 'z'].contains category.toLower then some (.set, rest)
        else none
      | [] => none
    else if c = 'x' then coded? 2 rest
    else if c = 'u' then coded? 4 rest
    else if c = 'U' then coded? 8 rest
    else
      match controls.find? fun x => x.1 = c with
      | some (_, control) => some (.char control, rest)
      | none =>
        if c.toNat < 128 && !c.isAlphanum && c ≠ '<' && c ≠ '>' then some (.char c, rest) else none

/-! ## Classes -/

/-- The rest of a class behind what stands at its start only: a negation, and a closing bracket or
hyphens that are members. -/
def classBody (cs : List Char) : List Char :=
  let cs := if cs.head? = some '^' then cs.drop 1 else cs
  if cs.head? = some ']' then cs.drop 1 else cs.dropWhile (· = '-')

/-- A member of a class: its character, if it is a single one, and the rest. -/
def member? : List Char → Option (Option Char × List Char)
  | [] => none
  | c :: rest =>
    if c = '\\' then
      (escape? rest).map fun
        | (.char c, rest) => (some c, rest)
        | (.set, rest) => (none, rest)
    else some (some c, rest)

/-- The rest behind as many classes as are open. -/
def classRest? (fuel : Nat) (isOpen : Nat) (cs : List Char) : Option (List Char) :=
  match fuel, isOpen with
  | 0, _ => none
  | _, 0 => some cs
  | fuel + 1, isOpen + 1 =>
    match cs with
    | [] => none
    | ']' :: rest => classRest? fuel isOpen rest
    | '[' :: rest => classRest? fuel (isOpen + 2) (classBody rest)
    | '&' :: '&' :: rest => classRest? fuel (isOpen + 1) rest
    | '-' :: '-' :: rest => classRest? fuel (isOpen + 1) rest
    | '~' :: '~' :: rest => classRest? fuel (isOpen + 1) rest
    | cs => do
      let (low, rest) ← member? cs
      match rest with
      | '-' :: next :: more =>
        if next = ']' || next = '-' then classRest? fuel (isOpen + 1) rest
        else
          let (high, rest) ← member? (next :: more)
          match low, high with
          | some low, some high =>
            if low ≤ high then classRest? fuel (isOpen + 1) rest else none
          | _, _ => none
      | _ => classRest? fuel (isOpen + 1) rest

/-! ## Groups -/

private def isNameStart (c : Char) : Bool :=
  c = '_' || (Text.inRanges Text.alphanumericRanges c && !c.isDigit)

private def isNamePart (c : Char) : Bool :=
  c = '_' || c = '.' || c = '[' || c = ']' || Text.inRanges Text.alphanumericRanges c

/-- The rest behind the name of a group and its closing angle bracket. -/
def groupName? (cs : List Char) : Option (List Char) :=
  if cs.head?.any isNameStart then
    match cs.dropWhile isNamePart with
    | '>' :: rest => some rest
    | _ => none
  else none

private def isFlag (c : Char) : Bool := ['i', 'm', 's', 'U', 'u', 'R', 'x', '-'].contains c

/-- Whether flags may stand together: each once, and a minus sign before others only. -/
private def areFlags (flags : List Char) : Bool :=
  (flags.all fun c => flags.count c = 1) && flags.getLast? ≠ some '-'

/-- What a question mark behind an opening parenthesis begins: whether a group is opened, and the
rest. Flags alone open none. -/
def groupHead? (cs : List Char) : Option (Bool × List Char) :=
  match cs with
  | 'P' :: '<' :: rest => (groupName? rest).map (true, ·)
  | '<' :: rest => (groupName? rest).map (true, ·)
  | cs =>
    let flags := cs.takeWhile isFlag
    match cs.dropWhile isFlag with
    | ':' :: rest => if areFlags flags then some (true, rest) else none
    | ')' :: rest => if areFlags flags && !flags.isEmpty then some (false, rest) else none
    | _ => none

/-! ## Patterns -/

/-- Whether the rest of a pattern is well formed, with some groups open; `repeatable` tells whether
something that may be repeated stands in front of it. -/
def isRest (fuel : Nat) (openGroups : Nat) (repeatable : Bool) (cs : List Char) : Bool :=
  match fuel with
  | 0 => false
  | fuel + 1 =>
    match cs with
    | [] => openGroups = 0
    | '|' :: rest => isRest fuel openGroups false rest
    | '*' :: rest => repeatable && isRest fuel openGroups true rest
    | '+' :: rest => repeatable && isRest fuel openGroups true rest
    | '?' :: rest => repeatable && isRest fuel openGroups true rest
    | '(' :: '?' :: rest =>
      match groupHead? rest with
      | some (true, rest) => isRest fuel (openGroups + 1) false rest
      | some (false, rest) => isRest fuel openGroups false rest
      | none => false
    | '(' :: rest => isRest fuel (openGroups + 1) false rest
    | ')' :: rest => openGroups ≠ 0 && isRest fuel (openGroups - 1) true rest
    | '[' :: rest =>
      match classRest? (cs.length + 1) 1 (classBody rest) with
      | some rest => isRest fuel openGroups true rest
      | none => false
    | '\\' :: c :: rest =>
      -- the start and the end of the text
      if c = 'A' || c = 'z' then isRest fuel openGroups true rest
      else
        match escape? (c :: rest) with
        | some (_, rest) => isRest fuel openGroups true rest
        | none => false
    | ['\\'] => false
    | c :: rest => c ≠ '\x7b' && isRest fuel openGroups true rest

def isPattern (cs : List Char) : Bool := isRest (cs.length + 1) 0 false cs

/-! ## Values -/

/-- Whether a text without a sign is a number: digits with at most one point, and an exponent. -/
def isUnsignedNumber (cs : List Char) : Bool :=
  let whole := cs.takeWhile Char.isDigit
  let rest := cs.dropWhile Char.isDigit
  let (fraction, rest) :=
    match rest with
    | '.' :: rest => (rest.takeWhile Char.isDigit, rest.dropWhile Char.isDigit)
    | rest => ([], rest)
  !(whole.isEmpty && fraction.isEmpty) &&
    match rest with
    | [] => true
    | c :: exponent =>
      let exponent :=
        match exponent with
        | '+' :: rest => rest
        | '-' :: rest => rest
        | rest => rest
      (c = 'e' || c = 'E') && !exponent.isEmpty && exponent.all Char.isDigit

/-- Whether a field may be compared with the text. -/
def isValue (cs : List Char) : Bool :=
  isPattern cs ||
    match cs with
    | '+' :: rest =>
      isUnsignedNumber rest ||
        ["inf", "infinity", "nan"].contains (String.ofList rest).toLower
    | _ => false

/-- Whether a field is compared with a value, if with anything: what follows its first equals sign
up to the next one. -/
def isField (cs : List Char) : Bool :=
  match cs.dropWhile (· ≠ '=') with
  | [] => true
  | _ :: value => isValue (value.takeWhile (· ≠ '='))

end ServiceBinding.ValuePattern
