import ServiceBinding.Versioning.Provider

/-!
# One definition in front of a provider

A provider answers behind one more definition as it does without it, but for what this definition does to
the invocation before and to the result after (`serve_behind`): whatever the provider itself is, and
however many definitions stand in front of it already. With none in front it is its target that answers
(`serve_bare`).
-/

namespace ServiceBinding

open Json

/-- A result passes later ascents after earlier ones. -/
theorem ascend_append (inner outer : List Ascent) (result : Value) :
    ascend (inner ++ outer) result = ascend outer (ascend inner result) :=
  List.foldl_append

/-- The ascents that an invocation brings along are the last ones of its result. -/
theorem descend_append (layers : List ApiDefinition) (i : Invocation) (ascents outer : List Ascent) :
    descend layers i (ascents ++ outer) =
      (descend layers i ascents).map fun found => (found.1, found.2 ++ outer) := by
  induction layers generalizing i ascents with
  | nil => rfl
  | cons d rest ih =>
    simp only [descend]
    cases d.upgrade i with
    | error e => rfl
    | ok upgraded =>
      have hascent := ih upgraded (⟨d, i.method, d.stampOf i⟩ :: ascents)
      rwa [List.cons_append] at hascent

namespace Provider

variable {τ : Type} {m : Type → Type} [Monad m] [LawfulMonad m]

theorem serve_bare (target : τ) (run : τ → Invocation → m (Except InvocationError Value))
    (i : Invocation) : Provider.serve { target } run i = run target i := by
  refine Eq.trans ?_ (bind_pure (run target i))
  apply bind_congr
  intro r
  cases r <;> rfl

/-- The outermost definition is the first to see an invocation and the last to see its result. -/
theorem serve_behind (p : Provider τ) (d : ApiDefinition)
    (run : τ → Invocation → m (Except InvocationError Value)) (i : Invocation) :
    (p.behind d).serve run i =
      match d.upgrade i with
      | .error e => pure (.error (.serialization e))
      | .ok upgraded => Except.map (d.downgrade i.method (d.stampOf i)) <$> p.serve run upgraded := by
  simp only [serve, behind, descend]
  cases d.upgrade i with
  | error e => rfl
  | ok upgraded =>
    have hdescend := descend_append p.layers upgraded [] [⟨d, i.method, d.stampOf i⟩]
    rw [List.nil_append] at hdescend
    simp only [hdescend]
    cases descend p.layers upgraded [] with
    | error e =>
      rw [map_pure]
      rfl
    | ok found =>
      rw [map_bind]
      apply bind_congr
      intro r
      cases r with
      | error e =>
        rw [map_pure]
        rfl
      | ok result =>
        show pure (Except.ok (ascend (found.2 ++ [_]) result)) = _
        rw [map_pure, ascend_append]
        rfl

end Provider

end ServiceBinding
