import ServiceBinding.Invocation.Basic
import ServiceBinding.Command.Error
import ServiceBinding.Data.Table

/-!
# Scripted providers and operations

What a simulated provider or operation does: it takes some time and then answers, fails or breaks
off.
-/

namespace ServiceBinding.Simulation

open Json

/-- How something that runs ends: with a result, or broken off with a text. -/
inductive Fate (ε α : Type)
  | result (r : Except ε α)
  | broken (text : String)

/-- What a scripted provider answers. -/
inductive Answer
  | fail (e : InvocationError)
  | breakOff (text : String)
  | value (v : Value)
  /-- The invocation as it arrived. -/
  | echo

namespace Answer

/-- The invocation as a value. -/
def describe (i : Invocation) : Value :=
  .ofFields [("method", .string i.method), ("args", .array i.args),
    ("version", match i.version with
      | some v => .nat v
      | none => .null)]

def toFate (a : Answer) (i : Invocation) : Fate InvocationError Value :=
  match a with
  | .fail e => .result (.error e)
  | .breakOff text => .broken text
  | .value v => .result (.ok v)
  | .echo => .result (.ok (describe i))

end Answer

/-- What a scripted provider does on one call. -/
structure Behaviour where
  delay : Span := 0
  answer : Answer := .echo

/-- What a scripted provider does, by method. -/
structure Script where
  methods : Table String (List Behaviour) := Table.empty

namespace Script

/-- The name that stands for every method without behaviours of its own. -/
def anyMethod : String := "*"

/-- The behaviour on a call of a method after `earlier` calls of it: the behaviours in turn, and the
last one from then on. -/
def behaviour? (s : Script) (method : String) (earlier : Nat) : Option Behaviour :=
  match (s.methods.get? method).or (s.methods.get? anyMethod) with
  | some behaviours => behaviours[earlier]?.or behaviours.getLast?
  | none => none

end Script

/-- What a simulated provider is. -/
inductive Service
  /-- The sample service under an API name. -/
  | finder (api : String)
  | script (s : Script)

/-- How a scripted operation fails. -/
inductive WorkError
  /-- By its own rules. -/
  | domain (text : String)
  /-- Because what it depends on could not be reached. -/
  | transport (text : String)
  deriving DecidableEq, Inhabited

namespace WorkError

def text : WorkError → String
  | .domain t => t
  | .transport t => t

instance : FailureKind WorkError where
  isInfrastructure
    | .domain _ => false
    | .transport _ => true

end WorkError

/-- A scripted operation. -/
structure Work where
  delay : Span := 0
  fate : Fate WorkError Value := .result (.ok .null)

end ServiceBinding.Simulation
