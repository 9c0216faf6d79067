import ServiceBinding.Toml.Scalar
import ServiceBinding.Toml.Table

/-!
# Reading TOML text

TOML 1.1: lines of key-value pairs and table headers, with comments. The result is a document, so
that a configuration is read from TOML and JSON text alike.
-/

namespace ServiceBinding.Toml

open Json

/-! ## Blanks, comments and line ends -/

def skipSpaces : List Char → List Char
  | c :: rest => if c = ' ' || c = '\t' then skipSpaces rest else c :: rest
  | [] => []

/-- Whether a character may stand in comments and one-line strings. -/
def isPrintable (c : Char) : Bool := c = '\t' || (32 ≤ c.toNat && c.toNat ≠ 127)

private def skipPrintable : List Char → List Char
  | c :: rest => if isPrintable c then skipPrintable rest else c :: rest
  | [] => []

/-- The rest after a comment, if there is one. -/
def skipComment : List Char → List Char
  | '#' :: rest => skipPrintable rest
  | cs => cs

/-- The rest after one line end. -/
def lineEnd? : List Char → Option (List Char)
  | '\n' :: rest => some rest
  | '\r' :: '\n' :: rest => some rest
  | _ => none

/-- Skips blanks, comments and line ends. -/
def skipLines (fuel : Nat) (cs : List Char) : List Char :=
  match fuel with
  | 0 => cs
  | fuel + 1 =>
    let cs := skipComment (skipSpaces cs)
    match lineEnd? cs with
    | some rest => skipLines fuel rest
    | none => cs

/-! ## Strings -/

private def hexNumber? (cs : List Char) : Option Nat :=
  cs.foldlM (fun acc c => (Reader.hexValue? c).map (acc * 16 + ·)) 0

/-- The character with a code point; surrogates have none. -/
private def scalarChar? (n : Nat) : Option Char :=
  if n < 0xD800 || (0xDFFF < n && n < 0x110000) then some (Char.ofNat n) else none

/-- The character of an escape after its backslash, and the rest. -/
def escape? : List Char → Option (Char × List Char)
  | [] => none
  | c :: rest =>
    let coded (width : Nat) : Option (Char × List Char) := do
      if rest.length < width then none
      let n ← hexNumber? (rest.take width)
      let ch ← scalarChar? n
      return (ch, rest.drop width)
    if c = 'b' then some (Char.ofNat 8, rest)
    else if c = 't' then some ('\t', rest)
    else if c = 'n' then some ('\n', rest)
    else if c = 'f' then some (Char.ofNat 12, rest)
    else if c = 'r' then some ('\r', rest)
    else if c = 'e' then some (Char.ofNat 27, rest)
    else if c = '"' || c = '\\' then some (c, rest)
    else if c = 'x' then coded 2
    else if c = 'u' then coded 4
    else if c = 'U' then coded 8
    else none

/-- The rest after a backslash that ends a line, all blanks behind it included. -/
def continuation? (fuel : Nat) (cs : List Char) : Option (List Char) :=
  (lineEnd? (skipSpaces cs)).map fun rest => skip fuel rest
where
  skip (fuel : Nat) (cs : List Char) : List Char :=
    match fuel with
    | 0 => cs
    | fuel + 1 =>
      let cs := skipSpaces cs
      match lineEnd? cs with
      | some rest => skip fuel rest
      | none => cs

/-- The quotes a text starts with, and the rest. -/
def quoteRun (q : Char) : List Char → Nat × List Char
  | c :: rest =>
    if c = q then
      let (n, rest) := quoteRun q rest
      (n + 1, rest)
    else (0, c :: rest)
  | [] => (0, [])

/-- The rest of a one-line string after its opening quote. -/
def lineString (fuel : Nat) (escapes : Bool) (q : Char) (acc : List Char) (cs : List Char) :
    Option (String × List Char) :=
  match fuel with
  | 0 => none
  | fuel + 1 =>
    match cs with
    | [] => none
    | c :: rest =>
      if c = q then some (String.ofList acc.reverse, rest)
      else if escapes && c = '\\' then
        match escape? rest with
        | some (ch, rest) => lineString fuel escapes q (ch :: acc) rest
        | none => none
      else if isPrintable c then lineString fuel escapes q (c :: acc) rest
      else none

/-- The rest of a multi-line string. Up to two quotes may stand before the closing three. -/
def blockString (fuel : Nat) (escapes : Bool) (q : Char) (acc : List Char) (cs : List Char) :
    Option (String × List Char) :=
  match fuel with
  | 0 => none
  | fuel + 1 =>
    match cs with
    | [] => none
    | c :: rest =>
      if c = q then
        -- the last three of a run close the string, and at most two may stand before them
        let (n, after) := quoteRun q cs
        if n < 3 then blockString fuel escapes q (List.replicate n q ++ acc) after
        else if n ≤ 5 then
          some (String.ofList (List.replicate (n - 3) q ++ acc).reverse, after)
        else none
      else if escapes && c = '\\' then
        match escape? rest with
        | some (ch, rest) => blockString fuel escapes q (ch :: acc) rest
        | none =>
          match continuation? rest.length rest with
          | some rest => blockString fuel escapes q acc rest
          | none => none
      else
        match lineEnd? cs with
        | some rest => blockString fuel escapes q ('\n' :: acc) rest
        | none => if isPrintable c then blockString fuel escapes q (c :: acc) rest else none

private def apostrophe : Char := Char.ofNat 39

/-- A string value of any of the four kinds. -/
def stringValue (cs : List Char) : Option (String × List Char) :=
  match cs with
  | [] => none
  | q :: rest =>
    let escapes : Bool := q = '"'
    match quoteRun q cs with
    | (1, _) => lineString cs.length escapes q [] rest
    | (2, rest) => some ("", rest)
    | _ =>
      -- a line end right after the opening quotes is no part of the string
      let body := cs.drop 3
      blockString cs.length escapes q [] ((lineEnd? body).getD body)

/-! ## Keys -/

def isBareKeyChar (c : Char) : Bool := c.isAlphanum || c = '_' || c = '-'

/-- One part of a key. -/
def simpleKey (cs : List Char) : Option (String × List Char) :=
  match cs with
  | [] => none
  | c :: rest =>
    if c = '"' || c = apostrophe then lineString cs.length (c = '"') c [] rest
    else
      let bare := cs.takeWhile isBareKeyChar
      if bare.isEmpty then none else some (String.ofList bare, cs.dropWhile isBareKeyChar)

/-- The parts of a key before its last one, the last one, and the rest. -/
private def keyParts (fuel : Nat) (cs : List Char) : Option (List String × String × List Char) :=
  match fuel with
  | 0 => none
  | fuel + 1 => do
    let (part, rest) ← simpleKey (skipSpaces cs)
    match skipSpaces rest with
    | '.' :: rest =>
      let (path, last, rest) ← keyParts fuel rest
      return (part :: path, last, rest)
    | rest => return ([], part, rest)

/-- A key has at most so many parts before its last one. -/
def maxPath : Nat := 79

/-- A key: the parts before its last one, the last one, and the rest. -/
def key (cs : List Char) : Option (List String × String × List Char) :=
  (keyParts (cs.length + 1) cs).filter fun k => k.1.length ≤ maxPath

/-! ## Values -/

private def isScalarEnd (c : Char) : Bool :=
  c = ',' || c = '=' || c = '[' || c = ']' || c = '\x7b' || c = '\x7d' || c = '#' || c = ' ' ||
    c = '\n' || c = '\r'

/-- The characters of an unquoted value up to a blank and the rest. Tabs belong to the value if
anything of it follows them. -/
def scalarRun (cs : List Char) : List Char × List Char :=
  let run := cs.takeWhile fun c => !isScalarEnd c
  let head := (run.reverse.dropWhile (· = '\t')).reverse
  (head, cs.drop head.length)

/-- The characters of an unquoted value and the rest. A date may be followed by a blank and a
time. -/
def scalarSpan (cs : List Char) : List Char × List Char :=
  let (head, rest) := scalarRun cs
  match rest with
  | ' ' :: d :: more =>
    if head.length = 10 && isDateTime head && d.isDigit then
      let (tail, rest) := scalarRun (d :: more)
      (head ++ ' ' :: tail, rest)
    else (head, rest)
  | _ => (head, rest)

/-- Arrays and inline tables may stand inside one another so deep. -/
def maxDepth : Nat := 80

mutual

/-- The value a text starts with, and the rest. At most `depth` arrays and inline tables may stand
inside one another. -/
def value (fuel depth : Nat) (cs : List Char) : Option (Node × List Char) :=
  match fuel with
  | 0 => none
  | fuel + 1 =>
    match cs with
    | [] => none
    | c :: rest =>
      if c = '"' || c = apostrophe then
        (stringValue cs).map fun (s, rest) => (.leaf (.string s), rest)
      else if c = '[' then
        match depth with
        | 0 => none
        | depth + 1 => (arrayItems fuel depth rest).map fun (ds, rest) => (.leaf (.array ds), rest)
      else if c = '\x7b' then
        match depth with
        | 0 => none
        | depth + 1 =>
          (inlineEntries fuel depth [] rest).map fun (es, rest) => (.table .inline es, rest)
      else
        let (head, rest) := scalarSpan cs
        (scalar? head).map fun d => (.leaf d, rest)

/-- The items of an array up to its closing bracket. -/
def arrayItems (fuel depth : Nat) (cs : List Char) : Option (List Document × List Char) :=
  match fuel with
  | 0 => none
  | fuel + 1 =>
    match skipLines cs.length cs with
    | ']' :: rest => some ([], rest)
    | cs =>
      match value fuel depth cs with
      | none => none
      | some (node, rest) =>
        match skipLines rest.length rest with
        | ',' :: rest =>
          (arrayItems fuel depth rest).map fun (ds, rest) => (node.document :: ds, rest)
        | ']' :: rest => some ([node.document], rest)
        | _ => none

/-- The entries of an inline table up to its closing brace, added to `acc`. Lines may end anywhere
but inside a key. -/
def inlineEntries (fuel depth : Nat) (acc : Entries) (cs : List Char) :
    Option (Entries × List Char) :=
  match fuel with
  | 0 => none
  | fuel + 1 =>
    match skipLines cs.length cs with
    | '\x7d' :: rest => some (acc, rest)
    | cs =>
      match key cs with
      | none => none
      | some (path, name, rest) =>
        match skipLines rest.length rest with
        | '=' :: rest =>
          match value fuel depth (skipLines rest.length rest) with
          | none => none
          | some (node, rest) =>
            match defineKey path name node .inline acc with
            | none => none
            | some (_, acc) =>
              match skipLines rest.length rest with
              | ',' :: rest => inlineEntries fuel depth acc rest
              | '\x7d' :: rest => some (acc, rest)
              | _ => none
        | _ => none

end

/-! ## Lines -/

/-- What is read so far: the root table, and the header under which the next keys stand. -/
structure State where
  root : Entries := []
  header : List String := []

private def State.edit (s : State) (edit : Edit) : Option State := do
  let (_, root) ← edit .header s.root
  return { s with root }

/-- One line without its end. -/
def line (s : State) (cs : List Char) : Option (State × List Char) :=
  match cs with
  | '[' :: '[' :: rest => do
    let (path, name, rest) ← key rest
    let rest ← Reader.expect [']', ']'] rest
    let s ← s.edit (appendTable path name)
    return ({ s with header := path ++ [name] }, rest)
  | '[' :: rest => do
    let (path, name, rest) ← key rest
    let rest ← Reader.expect [']'] rest
    let s ← s.edit (openTable path name)
    return ({ s with header := path ++ [name] }, rest)
  | _ => do
    let (path, name, rest) ← key cs
    let rest ← Reader.expect ['='] rest
    let (node, rest) ← value (2 * rest.length + 2) maxDepth (skipSpaces rest)
    let s ← s.edit (editAt false s.header (defineKey path name node))
    return (s, rest)

/-- All lines of a text. -/
def lines (fuel : Nat) (s : State) (cs : List Char) : Option State :=
  match fuel with
  | 0 => none
  | fuel + 1 =>
    match skipLines cs.length cs with
    | [] => some s
    | cs =>
      match line s cs with
      | none => none
      | some (s, rest) =>
        match skipComment (skipSpaces rest) with
        | [] => some s
        | rest => (lineEnd? rest).bind (lines fuel s)

/-- The document written by a TOML text, which may begin with a byte order mark. -/
def read? (text : String) : Option Document :=
  let cs :=
    match text.toList with
    | c :: rest => if c.toNat = 0xFEFF then rest else c :: rest
    | [] => []
  (lines (cs.length + 1) {} cs).map fun s => .object (entriesFields s.root)

end ServiceBinding.Toml
