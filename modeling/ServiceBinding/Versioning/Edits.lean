import ServiceBinding.Versioning.Migration

/-!
# Migrations given by edits

A migration can be given as data: a list of edits of the argument list of a request and a list of
edits of the result of a response, each for one method or for all.
-/

namespace ServiceBinding

open Json

/-- A change of an argument list. An index out of range changes nothing. -/
inductive ArgumentEdit
  | push (v : Value)
  | remove (index : Nat)
  | swap (i j : Nat)

def ArgumentEdit.apply (args : List Value) : ArgumentEdit → List Value
  | .push v => args ++ [v]
  | .remove i => args.eraseIdx i
  | .swap i j =>
    match args[i]?, args[j]? with
    | some x, some y => (args.set i y).set j x
    | _, _ => args

/-- Changes of a result: of the fields of an object, in the order given here, or of the items of an
array; at last any result may be replaced. -/
structure ResultEdit where
  /-- Gives a field another name. -/
  rename : Option (String × String) := none
  drop : Option String := none
  put : Option (String × Value) := none
  append : Option Value := none
  replace : Option Value := none

namespace ResultEdit

private def renameField (fields : List (String × Value)) : Option (String × String) →
    List (String × Value)
  | some (old, new) =>
    match Ordered.lookup old fields with
    | some v => Ordered.insert new v (Ordered.erase old fields)
    | none => fields
  | none => fields

private def editFields (e : ResultEdit) (fields : List (String × Value)) : List (String × Value) :=
  let fields := renameField fields e.rename
  let fields :=
    match e.drop with
    | some name => Ordered.erase name fields
    | none => fields
  match e.put with
  | some (name, v) => Ordered.insert name v fields
  | none => fields

def apply (e : ResultEdit) (result : Value) : Value :=
  let edited :=
    match result with
    | .object fields => .object (e.editFields fields)
    | .array items => .array (items ++ e.append.toList)
    | v => v
  e.replace.getD edited

end ResultEdit

/-- Edits for one method, or for every method. -/
structure Scoped (ε : Type) where
  method : Option String := none
  edit : ε

/-- Whether the edit is for calls of `method`. -/
def Scoped.applies {ε : Type} (s : Scoped ε) (method : String) : Bool :=
  match s.method with
  | some m => m = method
  | none => true

/-- The migration that makes the given edits in their order. -/
def Migration.ofEdits (fromVersion : Nat) (upgrades : List (Scoped ArgumentEdit))
    (downgrades : List (Scoped ResultEdit)) : Migration :=
  { fromVersion
    upgrade := fun method args =>
      (upgrades.filter (·.applies method)).foldl (fun args s => s.edit.apply args) args
    downgrade := fun method result =>
      (downgrades.filter (·.applies method)).foldl (fun v s => s.edit.apply v) result }

end ServiceBinding
