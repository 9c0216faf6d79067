import ServiceBinding.Json.Value
import ServiceBinding.Text.Replacement

/-!
# Labels of exported providers

An exported provider gets an id that was not known before. A scenario knows it by a label of its
choice: in answers the label takes the place of the id. Of several providers exported under one
label every id is shown as the label, and the label stands for the first.
-/

namespace ServiceBinding.Simulation

/-- The ids given to exported providers and their labels, in the order of the exports. -/
structure Labels where
  issued : List (String × String) := []
  deriving Inhabited

namespace Labels

private def digits (width n : Nat) : List Char :=
  let cs := Nat.toDigits 10 n
  List.replicate (width - cs.length) '0' ++ cs

/-- The id with a number. -/
def idOf (n : Nat) : String := "7d4f0a61-52c8-4e0b-9b3e-" ++ String.ofList (digits 12 n)

/-- A label as it stands in answers and in requests. -/
def mark (label : String) : String := "$" ++ label

/-- Gives a label to a new id. -/
def issue (ls : Labels) (id label : String) : Labels := ⟨ls.issued ++ [(id, label)]⟩

/-- The id that a text stands for: the first one of the label it marks, or else itself. -/
def idFor (ls : Labels) (text : String) : String :=
  match ls.issued.find? fun x => mark x.2 = text with
  | some (id, _) => id
  | none => text

/-- The text with labels in place of ids. -/
def inText (ls : Labels) (s : String) : String :=
  ls.issued.foldl (fun s x => Text.replace x.1 (mark x.2) s) s

/-- The value with labels in place of ids in its texts. -/
def inValue (ls : Labels) (v : Json.Value) : Json.Value := v.mapTexts ls.inText

end Labels

end ServiceBinding.Simulation
