import ServiceBinding.Invocation.Error
import ServiceBinding.Text.Blank

/-!
# Service URIs

A service URI is the name of a component, a colon, and parameters for that component. The name is
what stands before the first colon, without blanks at its ends; it must not be empty. The
parameters are everything after that colon, unchanged.
-/

namespace ServiceBinding

/-- Where a service is found: a component, and what it has to know. -/
structure ServiceUri where
  component : String
  params : String
  deriving DecidableEq, Inhabited

namespace ServiceUri

def parse (s : String) : Except BindError ServiceUri :=
  let cs := s.toList
  match cs.dropWhile (· ≠ ':') with
  | [] => .error (.invalidUri s)
  | _ :: params =>
    let name := Text.trimChars (cs.takeWhile (· ≠ ':'))
    if name.isEmpty then .error (.invalidUri s)
    else .ok ⟨String.ofList name, String.ofList params⟩

def text (u : ServiceUri) : String := u.component ++ ":" ++ u.params

end ServiceUri

end ServiceBinding
