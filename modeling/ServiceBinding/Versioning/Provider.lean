import ServiceBinding.Versioning.Migration

/-!
# Providers behind versions

A provider exported for a versioned API stands behind the definition of that API, and may stand
behind several of them, the outermost first. An invocation descends through them, each bringing it
up to its own version, and the result ascends again, each definition bringing it down to the version
at which the invocation came.

The provider itself is any type `τ` of targets; `serve` runs one in any monad.
-/

namespace ServiceBinding

open Json

/-- A provider behind the definitions of its APIs, the outermost first. -/
structure Provider (τ : Type) where
  layers : List ApiDefinition := []
  target : τ

/-- What a definition has to do to a result: bring the result of a method down to a version. -/
structure Ascent where
  definition : ApiDefinition
  method : String
  version : Nat

/-- Brings an invocation through the definitions; also the ascents of its result, the innermost
first. -/
def descend (layers : List ApiDefinition) (i : Invocation) (ascents : List Ascent) :
    Except CodecError (Invocation × List Ascent) :=
  match layers with
  | [] => .ok (i, ascents)
  | d :: rest =>
    match d.upgrade i with
    | .error e => .error e
    | .ok upgraded => descend rest upgraded (⟨d, i.method, d.stampOf i⟩ :: ascents)

/-- Brings a result out through the definitions. -/
def ascend (ascents : List Ascent) (result : Value) : Value :=
  ascents.foldl (fun v a => a.definition.downgrade a.method a.version v) result

namespace Provider

variable {τ : Type}

/-- The provider behind one more definition. -/
def behind (p : Provider τ) (d : ApiDefinition) : Provider τ := { p with layers := d :: p.layers }

/-- Answers an invocation by the target, which `run` runs. -/
def serve {m : Type → Type} [Monad m] (p : Provider τ)
    (run : τ → Invocation → m (Except InvocationError Value)) (i : Invocation) :
    m (Except InvocationError Value) :=
  match descend p.layers i [] with
  | .error e => pure (.error (.serialization e))
  | .ok (inner, ascents) => do
    match ← run p.target inner with
    | .ok result => pure (.ok (ascend ascents result))
    | .error e => pure (.error e)

end Provider

end ServiceBinding
