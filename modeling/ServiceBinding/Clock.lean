import ServiceBinding.Data.Width

/-!
# Instants and spans

Time is counted in whole nanoseconds from an arbitrary origin. A span is a difference of
instants; `Nat` subtraction makes the difference of an earlier and a later instant zero, which
is the reading every rule of this library wants of a clock.

A clock ends at `Instant.bound`, and no instant from there on can be told. A cache of look-ups
keeps an entry for a span that may be as long as one likes, so there the instant after the span
may be beyond the clock (`Instant.after?`), and what follows is part of the library. Everywhere
else, where a lease or a window ends, a deadline or the next tick comes or a pause is over, the
instant is written as the plain sum: those spans are assumed to end while the clock still runs.
-/

namespace ServiceBinding

/-- A point in time, in nanoseconds since the origin. -/
abbrev Instant := Nat

/-- A length of time, in nanoseconds. -/
abbrev Span := Nat

namespace Span

def ofMicros (n : Nat) : Span := n * 1000

def ofMillis (n : Nat) : Span := n * 1000000

def ofSeconds (n : Nat) : Span := n * 1000000000

/-- The whole milliseconds of a span; the rest is dropped. -/
def toMillis (d : Span) : Nat := d / 1000000

@[simp] theorem toMillis_ofMillis (n : Nat) : toMillis (ofMillis n) = n := by
  simp [toMillis, ofMillis]

/-- The decimal digits of `n`, padded on the left with zeros to `width` places. -/
private def padded (width n : Nat) : List Char :=
  let digits := (toString n).toList
  List.replicate (width - digits.length) '0' ++ digits

/-- A fraction of `10 ^ width` parts as it follows a whole number: nothing when it is zero,
otherwise a point and its digits without the trailing zeros. -/
private def fractionText (width part : Nat) : String :=
  if part = 0 then ""
  else
    let digits := (padded width part).reverse.dropWhile (· == '0')
    "." ++ String.ofList digits.reverse

/-- A span in the largest unit of seconds, milli-, micro- and nanoseconds that leaves a whole
part of at least one, exact to the nanosecond. -/
def text (d : Span) : String :=
  if 1000000000 ≤ d then
    toString (d / 1000000000) ++ fractionText 9 (d % 1000000000) ++ "s"
  else if 1000000 ≤ d then
    toString (d / 1000000) ++ fractionText 6 (d % 1000000) ++ "ms"
  else if 1000 ≤ d then
    toString (d / 1000) ++ fractionText 3 (d % 1000) ++ "µs"
  else
    toString d ++ "ns"

end Span

namespace Instant

/-- The end of the clock, which counts its whole seconds in a signed word of 64 bits. -/
def bound : Instant := Span.ofSeconds Width.bound63

/-- The instant a span later, if the clock can tell it. -/
def after? (t : Instant) (d : Span) : Option Instant :=
  if t + d < bound then some (t + d) else none

variable {t u : Instant} {d : Span}

theorem after?_eq_some_iff : t.after? d = some u ↔ t + d < bound ∧ t + d = u := by
  by_cases h : t + d < bound
  · simp [after?, h]
  · simp [after?, h]

theorem after?_eq_none_iff : t.after? d = none ↔ bound ≤ t + d := by
  simp [after?]

end Instant

end ServiceBinding
