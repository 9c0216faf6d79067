import ServiceBinding.Data.Double
import ServiceBinding.Data.Ordered

/-!
# JSON values

Values as programs exchange them: integers that fit 64 bits are kept exactly, every other number is
a double, and the fields of an object are kept in the order of their names, each name once.
-/

namespace ServiceBinding.Json

/-- A number. `whole n` has `n < 2 ^ 64`; `negative n` stands for `-n` and has `0 < n ≤ 2 ^ 63`. -/
inductive Number
  | whole (n : Nat)
  | negative (n : Nat)
  | double (d : Double)
  deriving DecidableEq, Inhabited

/-- The integer a number stands for; a double stands for none, whatever its value. -/
def Number.toInt? : Number → Option Int
  | .whole n => some n
  | .negative n => some (-n)
  | .double _ => none

/-- The number of an integer that fits 64 bits, signed or unsigned. -/
def Number.ofInt (i : Int) : Number :=
  if 0 ≤ i then .whole i.toNat else .negative (-i).toNat

/-- A JSON value. The fields of an object stand in the order of their names. -/
inductive Value
  | null
  | bool (b : Bool)
  | number (n : Number)
  | string (s : String)
  | array (items : List Value)
  | object (fields : List (String × Value))
  deriving Inhabited

namespace Value

def nat (n : Nat) : Value := .number (.whole n)

def int (i : Int) : Value := .number (.ofInt i)

/-- An object of the given fields, the last one of a name holding. -/
def ofFields (fields : List (String × Value)) : Value := .object (Ordered.ofList fields)

/-- The field `name` of an object. -/
def field? (v : Value) (name : String) : Option Value :=
  match v with
  | .object fields => Ordered.lookup name fields
  | _ => none

mutual

/-- The value with every text in it changed. The names of fields stay. -/
def mapTexts (f : String → String) : Value → Value
  | .string s => .string (f s)
  | .array items => .array (mapItems f items)
  | .object fields => .object (mapFields f fields)
  | v => v

def mapItems (f : String → String) : List Value → List Value
  | [] => []
  | v :: rest => v.mapTexts f :: mapItems f rest

def mapFields (f : String → String) : List (String × Value) → List (String × Value)
  | [] => []
  | (name, v) :: rest => (name, v.mapTexts f) :: mapFields f rest

end

mutual

/-- Every object in the value has its fields in strict order. -/
def Canonical : Value → Prop
  | .array items => CanonicalItems items
  | .object fields => Ordered.Sorted fields ∧ CanonicalFields fields
  | _ => True

def CanonicalItems : List Value → Prop
  | [] => True
  | v :: rest => v.Canonical ∧ CanonicalItems rest

def CanonicalFields : List (String × Value) → Prop
  | [] => True
  | (_, v) :: rest => v.Canonical ∧ CanonicalFields rest

end

end Value

end ServiceBinding.Json
