import ServiceBinding.Data.Width
import ServiceBinding.Invocation.Router

/-!
# A sample service

A small restaurant finder under any API name. It routes methods of every shape of argument list: a
tuple, the empty tuple, an optional argument, a list, any value and a record.
-/

namespace ServiceBinding.Simulation

open Json

/-- A record of the sample service, with an optional field and one with a default. -/
structure Restaurant where
  name : String
  stars : Option Nat := none
  tags : List String := []
  deriving DecidableEq, Inhabited

namespace Restaurant

def toJson (r : Restaurant) : Value :=
  .ofFields [("name", .string r.name),
    ("stars", match r.stars with
      | some n => .nat n
      | none => .null),
    ("tags", .array (r.tags.map .string))]

def ofDocument? (d : Document) : Option Restaurant := do
  let slots ← d.record? {} ["name", "stars", "tags"]
  let name ← (slots "name").required Document.string?
  let stars ← (slots "stars").optional (Document.natBelow? Width.bound32)
  let tags ← (slots "tags").withDefault [] (Document.list? Document.string?)
  return ⟨name, stars, tags⟩

def codec : Codec Restaurant := .ofReading toJson ofDocument?

end Restaurant

namespace Finder

/-- The exceptions of the service all carry one correlation id. -/
private def exception (type detail : String) : ServiceException := ⟨type, detail, "c-1", none⟩

private def one (c : Codec α) : Codec (Tuple [α]) := (Codecs.cons c .nil).toCodec

private def getByName : Tuple [String] → Except ServiceException Value
  | .cons name .nil =>
    if name = "Pizza Hut" then
      .ok (.ofFields [("name", .string name), ("cuisine", .string "pizza")])
    else .error (exception "NoSuchRestaurant" name)

private def add : Tuple [Int, Int] → Except ServiceException Int
  | .cons a (.cons b .nil) =>
    let sum := a + b
    if -Width.bound63 ≤ sum ∧ sum < Width.bound63 then .ok sum
    else .error (exception "Overflow" (toString a ++ " " ++ toString b))

/-- The routes of the service. -/
def router (api : String) : Router :=
  ({ api } : Router)
  |>.route "getByName" (one .string) .any getByName
  |>.route "count" .unit (.natBits 32) (fun _ => .ok 3)
  |>.route "add" (Codecs.cons .int64 (.cons .int64 .nil)).toCodec .int64 add
  |>.route "echo" .any .any .ok
  |>.route "maybe" (one (.option .string)) (.option .string) (fun | .cons x .nil => .ok x)
  |>.route "lengths" (.list .string) (.list (.natBits 64))
    (fun xs => .ok (xs.map String.utf8ByteSize))
  |>.route "rate" (one Restaurant.codec) Restaurant.codec (fun | .cons r .nil => .ok r)
  |>.route "nothing" .unit .unit .ok

end Finder

end ServiceBinding.Simulation
