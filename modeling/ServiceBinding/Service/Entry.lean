import ServiceBinding.Clock
import ServiceBinding.Data.Width
import ServiceBinding.Registry.Error

/-!
# Registry entries

An entry is what is published of a service: its properties and the lease each publication starts.
An entry read from a leasing registry also carries the instant its lease ends. A record is the
form an entry takes on the wire, with the lease in whole milliseconds of 64 bits.
-/

namespace ServiceBinding

/-- What is published of one provider. -/
structure Entry where
  properties : Properties
  lease : Span
  /-- The end of the lease, known only of entries read from a registry. -/
  expiresAt : Option Instant := none
  deriving DecidableEq, Inhabited

namespace Entry

/-- The instance an entry without one is stored under. -/
def defaultInstance : String := "default"

def instanceId (e : Entry) : String := e.properties.instance?.getD defaultInstance

def key (e : Entry) : Except RegistryError ServiceKey := e.properties.key

/-- What is left of the lease at `now`, if its end is known. -/
def remainingLease (e : Entry) (now : Instant) : Option Span := e.expiresAt.map (· - now)

end Entry

/-- An entry on the wire. -/
structure Record where
  properties : Properties
  leaseMillis : Nat
  deriving DecidableEq, Inhabited

/-- The entry a record describes. -/
def Record.toEntry (r : Record) : Entry := ⟨r.properties, Span.ofMillis r.leaseMillis, none⟩

/-- The wire form of an entry: milliseconds modulo `2 ^ 64`. -/
def Entry.toRecord (e : Entry) : Record := ⟨e.properties, Span.toMillis e.lease % Width.bound64⟩

end ServiceBinding
