/-!
# Service keys

A consumable service is identified by the name of its API and an optional qualifier. An empty
qualifier is still a qualifier.
-/

namespace ServiceBinding

/-- The identity of a consumable service. -/
structure ServiceKey where
  api : String
  qualifier : Option String := none
  deriving DecidableEq, Inhabited

namespace ServiceKey

/-- `api` or `api@qualifier`. -/
def text (k : ServiceKey) : String :=
  match k.qualifier with
  | some q => k.api ++ "@" ++ q
  | none => k.api

/-- Keys in order of API, an unqualified key before the qualified ones. -/
def before (a b : ServiceKey) : Bool :=
  if a.api = b.api then
    match a.qualifier, b.qualifier with
    | none, some _ => true
    | some x, some y => x < y
    | _, none => false
  else a.api < b.api

/-- Keys in order, each once. -/
def sorted (keys : List ServiceKey) : List ServiceKey :=
  (keys.mergeSort fun a b => !b.before a).eraseDups

end ServiceKey

end ServiceBinding
