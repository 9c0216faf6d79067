import ServiceBinding.Data.Ordered
import ServiceBinding.Data.Width
import ServiceBinding.Service.Key
import ServiceBinding.Text.Numeral

/-!
# Service properties

What a provider publishes about itself: a finite map from names to texts. Names that begin with an
underscore have a fixed meaning; a component adds names of its own. Properties with the same
entries are equal (`Properties.ext`).
-/

namespace ServiceBinding

/-- A finite map from names to texts, in the order of the names. -/
structure Properties where
  entries : List (String × String)
  sorted : Ordered.Sorted entries

namespace Properties

/-! ## Well-known names -/

/-- The component able to bind the service. -/
def componentName : String := "_component"
/-- The provided API. -/
def apiName : String := "_api"
/-- What distinguishes providers of the same API. -/
def qualifierName : String := "_qualifier"
/-- The subsystem of the exporting application. -/
def subsystemName : String := "_subsystem"
/-- The instance of the exporting application. -/
def instanceName : String := "_applicationInstanceId"
/-- The zone the provider is deployed in. -/
def zoneName : String := "_serviceZone"
/-- The version of the API that the provider serves. -/
def apiVersionName : String := "_apiVersion"
/-- `true` if the provider needs versioned calls. -/
def versionedName : String := "_versioned"

/-! ## Operations -/

instance : DecidableEq Properties := fun a b =>
  if h : a.entries = b.entries then
    isTrue (by cases a; cases b; cases h; rfl)
  else isFalse fun e => h (e ▸ rfl)

def empty : Properties := ⟨[], Ordered.Sorted.nil⟩

instance : Inhabited Properties := ⟨empty⟩

def get? (p : Properties) (name : String) : Option String := Ordered.lookup name p.entries

def set (p : Properties) (name value : String) : Properties :=
  ⟨Ordered.insert name value p.entries, p.sorted.insert name value⟩

def contains (p : Properties) (name : String) : Bool := (p.get? name).isSome

def size (p : Properties) : Nat := p.entries.length

/-- The properties of a sequence of assignments, of which the last one of a name holds. -/
def ofList (assignments : List (String × String)) : Properties :=
  ⟨Ordered.ofList assignments, Ordered.sorted_ofList assignments⟩

@[simp] theorem get?_empty (name : String) : empty.get? name = none := rfl

theorem get?_set (p : Properties) (name value other : String) :
    (p.set name value).get? other = if other = name then some value else p.get? other :=
  Ordered.lookup_insert name other value p.entries

/-- Properties are determined by their look-ups. -/
theorem ext {a b : Properties} (h : ∀ name, a.get? name = b.get? name) : a = b := by
  obtain ⟨xs, hx⟩ := a
  obtain ⟨ys, hy⟩ := b
  have : xs = ys := hx.ext hy h
  subst this
  rfl

/-! ## Readings -/

def component? (p : Properties) : Option String := p.get? componentName
def api? (p : Properties) : Option String := p.get? apiName
def qualifier? (p : Properties) : Option String := p.get? qualifierName
def subsystem? (p : Properties) : Option String := p.get? subsystemName
def instance? (p : Properties) : Option String := p.get? instanceName
def zone? (p : Properties) : Option String := p.get? zoneName

/-- The API version; a text that is no 32-bit number reads as absent. -/
def apiVersion? (p : Properties) : Option Nat :=
  (p.get? apiVersionName).bind fun v => Text.numeralBelow? Width.bound32 v.toList

def isVersioned (p : Properties) : Bool := p.get? versionedName = some "true"

/-- The properties every provider of an API publishes through a component. -/
def forApi (api component : String) : Properties :=
  (empty.set apiName api).set componentName component

def withQualifier (p : Properties) (qualifier : String) : Properties :=
  p.set qualifierName qualifier

/-- Marks the provider as versioned at `version`. -/
def withApiVersion (p : Properties) (version : Nat) : Properties :=
  (p.set apiVersionName (toString version)).set versionedName "true"

/-- The key the service is published under; without an API there is none. -/
def key? (p : Properties) : Option ServiceKey :=
  p.api?.map fun api => ⟨api, p.qualifier?⟩

end Properties

end ServiceBinding
