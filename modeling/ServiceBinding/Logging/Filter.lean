import ServiceBinding.Logging.Level
import ServiceBinding.Logging.Pattern
import ServiceBinding.Text.AlphanumericTable
import ServiceBinding.Text.Blank
import ServiceBinding.Text.Bytes
import ServiceBinding.Text.Numeral
import ServiceBinding.Text.Parts
import ServiceBinding.Text.Ranges

/-!
# Log filters

A filter is a list of directives separated by commas. A directive has a target, a span with an
optional field, and a level, as in `target[span{field=value}]=level`; a level alone is a
directive too. Its outline is found in the trimmed directive, and the positions found there cut the
directive as it was given, so blanks in front of it move every part.
-/

namespace ServiceBinding.LogFilter

/-- Why a filter is not taken. -/
inductive Fault
  /-- A directive is malformed. -/
  | invalid
  /-- A part of a directive would start or end inside a character. -/
  | broken (text : String)
  deriving DecidableEq, Inhabited

/-- Whether a directive may set its target to the level: nothing, `off`, the name of a level in any
case, or a number up to five. -/
def isLevel (cs : List Char) : Bool :=
  cs.isEmpty ||
    (match Text.numeralValue? cs with
      | some n => n ≤ 5
      | none => ("off" :: LogLevel.all.map LogLevel.name).contains (String.ofList cs).toLower)

/-- Whether a target may start with the character. -/
def isTargetStart (c : Char) : Bool :=
  c = '-' || c = ':' || c = '_' || Text.inRanges Text.alphanumericRanges c

section Directive

-- the directive as it was given
variable (directive : List Char)

private def part (start stop : Nat) : Except Fault (List Char) :=
  (Text.slice start stop directive).mapError .broken

/-- Checks the level, which starts at the position. -/
def checkLevel (start : Nat) : Except Fault Unit := do
  let level ← part directive start (Text.width directive)
  if isLevel level then .ok () else .error .invalid

/-- Checks what follows a span and starts at the position. -/
def checkAfterSpan (start : Nat) : List Char → Except Fault Unit
  | [] => .ok ()
  | c :: _ => if c = '=' then checkLevel directive (start + 1) else .error .invalid

/-- Checks the field of a span, which starts at the position, and what follows it. -/
def checkField (start : Nat) (cs : List Char) : Except Fault Unit := do
  let field := cs.takeWhile (· ≠ '\x7d')
  let stop := start + Text.width field
  match cs.dropWhile (· ≠ '\x7d') with
  | [] => .error .invalid
  | _ :: rest =>
    let field ← part directive start stop
    if field.isEmpty || !ValuePattern.isField field then .error .invalid
    else
      match rest with
      | ']' :: rest => checkAfterSpan directive (stop + 2) rest
      | _ => .error .invalid

private def isSpanName (c : Char) : Bool := c ≠ ']' && c ≠ '\x7b'

/-- Checks a span, which starts at the position, and what follows it. -/
def checkSpan (start : Nat) (cs : List Char) : Except Fault Unit := do
  let stop := start + Text.width (cs.takeWhile isSpanName)
  match cs.dropWhile isSpanName with
  | [] => .error .invalid
  | c :: rest =>
    let _ ← part directive start stop
    if c = ']' then checkAfterSpan directive (stop + 1) rest
    else checkField directive (stop + 1) rest

private def isTargetName (c : Char) : Bool := c ≠ '=' && c ≠ '['

/-- Checks a directive. -/
def checkDirective : Except Fault Unit := do
  let cs := Text.trimChars directive
  match cs with
  | [] => .error .invalid
  | c :: rest =>
    if c = '[' then checkSpan directive 1 rest
    else if !isTargetStart c then .error .invalid
    else
      let stop := Text.width (cs.takeWhile isTargetName)
      match cs.dropWhile isTargetName with
      | [] => .ok ()
      | c :: rest =>
        let _ ← part directive 0 stop
        if c = '=' then checkLevel directive (stop + 1)
        else checkSpan directive (stop + 1) rest

end Directive

/-- Checks the directives of a filter in their order. -/
def check (filter : String) : Except Fault Unit :=
  (Text.parts ',' filter.toList).forM checkDirective

end ServiceBinding.LogFilter
