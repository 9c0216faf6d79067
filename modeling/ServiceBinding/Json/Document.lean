import ServiceBinding.Json.Value

/-!
# JSON text as it is written

A document keeps what reading a text into a value would lose: the order and repetition of fields.
Text that is well formed but stands for no value is kept as `void`: a number out of the range of
doubles, a string or a field name with half of a surrogate pair, and an array or object nested more
than 127 levels deep. A reader that passes over a part of a document accepts a `void` there; one
that takes the part refuses it.
-/

namespace ServiceBinding.Json

/-- A JSON text, read but for what its parts stand for. -/
inductive Document
  | null
  | bool (b : Bool)
  | number (n : Number)
  | string (s : String)
  | array (items : List Document)
  | object (fields : List (Option String × Document))
  | void
  deriving Inhabited

namespace Document

mutual

/-- The value a document stands for; of fields of one name the last one holds. -/
def toValue? : Document → Option Value
  | .null => some .null
  | .bool b => some (.bool b)
  | .number n => some (.number n)
  | .string s => some (.string s)
  | .array items => (itemsToValues? items).map .array
  | .object fields => (fieldsToValues? fields).map Value.ofFields
  | .void => none

def itemsToValues? : List Document → Option (List Value)
  | [] => some []
  | d :: rest =>
    match d.toValue?, itemsToValues? rest with
    | some v, some vs => some (v :: vs)
    | _, _ => none

def fieldsToValues? : List (Option String × Document) → Option (List (String × Value))
  | [] => some []
  | (name, d) :: rest =>
    match name, d.toValue?, fieldsToValues? rest with
    | some n, some v, some vs => some ((n, v) :: vs)
    | _, _, _ => none

end

mutual

/-- The document of a value. -/
def ofValue : Value → Document
  | .null => .null
  | .bool b => .bool b
  | .number n => .number n
  | .string s => .string s
  | .array items => .array (ofItems items)
  | .object fields => .object (ofFields fields)

def ofItems : List Value → List Document
  | [] => []
  | v :: rest => ofValue v :: ofItems rest

def ofFields : List (String × Value) → List (Option String × Document)
  | [] => []
  | (name, v) :: rest => (some name, ofValue v) :: ofFields rest

end

end Document

end ServiceBinding.Json
