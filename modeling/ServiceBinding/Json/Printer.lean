import ServiceBinding.Json.Value

/-!
# JSON text of values

Compact text: no blanks, non-ASCII characters as they are, doubles by their exact decimal
expansion.
-/

namespace ServiceBinding.Json

private def hexDigit (n : Nat) : Char := Nat.digitChar n

/-- One character inside a JSON string. -/
private def escapeChar (c : Char) : List Char :=
  if c = '"' then ['\\', '"']
  else if c = '\\' then ['\\', '\\']
  else if c.toNat < 32 then
    ['\\', 'u', '0', '0', hexDigit (c.toNat / 16), hexDigit (c.toNat % 16)]
  else [c]

/-- A text as a JSON string. -/
def stringText (s : String) : String :=
  String.ofList ('"' :: s.toList.flatMap escapeChar ++ ['"'])

def Number.text : Number → String
  | .whole n => toString n
  | .negative n => "-" ++ toString n
  | .double d => d.expansion

mutual

/-- The JSON text of a value. -/
def Value.text : Value → String
  | .null => "null"
  | .bool b => if b then "true" else "false"
  | .number n => n.text
  | .string s => stringText s
  | .array items => "[" ++ itemsText items ++ "]"
  | .object fields => "\x7b" ++ fieldsText fields ++ "\x7d"

/-- The items of an array, separated by commas. -/
def itemsText : List Value → String
  | [] => ""
  | [v] => v.text
  | v :: rest => v.text ++ "," ++ itemsText rest

/-- The fields of an object, separated by commas. -/
def fieldsText : List (String × Value) → String
  | [] => ""
  | [(name, v)] => stringText name ++ ":" ++ v.text
  | (name, v) :: rest => stringText name ++ ":" ++ v.text ++ "," ++ fieldsText rest

end

end ServiceBinding.Json
