import ServiceBinding.Clock
import ServiceBinding.Data.Width

/-!
# Rolling window of outcomes

Outcomes are counted in buckets. A bucket opens with the first outcome that comes at least one
bucket length after the last bucket opened, and leaves the window one window length after it
opened.
-/

namespace ServiceBinding

/-- How a finished call counts. -/
inductive Outcome
  | success
  /-- The provider ran and failed by its own rules. -/
  | serviceFailure
  /-- Timeout, rejection or transport failure. -/
  | infrastructureFailure
  deriving DecidableEq, Inhabited

/-- Counts over the window. -/
structure Health where
  /-- Successes and infrastructure failures. -/
  total : Nat := 0
  /-- Infrastructure failures. -/
  errors : Nat := 0
  /-- Service failures, which are in neither of the others. -/
  serviceFailures : Nat := 0
  deriving DecidableEq, Inhabited

namespace Health

/-- The percentage of infrastructure failures, rounded down. A hundred times their number is kept in
64 bits and the percentage in 32. -/
def errorPercentage (h : Health) : Nat :=
  if h.total = 0 then 0
  else h.errors * 100 % Width.bound64 / h.total % Width.bound32

end Health

/-- The outcomes counted since one instant. -/
structure Bucket where
  start : Instant
  successes : Nat := 0
  serviceFailures : Nat := 0
  infrastructureFailures : Nat := 0
  deriving DecidableEq, Inhabited

namespace Bucket

def add (b : Bucket) : Outcome → Bucket
  | .success => { b with successes := b.successes + 1 }
  | .serviceFailure => { b with serviceFailures := b.serviceFailures + 1 }
  | .infrastructureFailure => { b with infrastructureFailures := b.infrastructureFailures + 1 }

end Bucket

/-- The outcomes of the last stretch of time, bucket by bucket. -/
structure Window where
  length : Span
  bucketLength : Span
  /-- The oldest bucket first. -/
  buckets : List Bucket := []
  deriving DecidableEq, Inhabited

namespace Window

/-- An empty window of `count` buckets. A bucket is at least a millisecond long. -/
def new (length : Span) (count : Nat) : Window :=
  { length, bucketLength := max (length / count) (Span.ofMillis 1) }

/-- Drops the buckets that have left the window. -/
def prune (w : Window) (now : Instant) : Window :=
  { w with buckets := w.buckets.dropWhile fun b => b.start + w.length ≤ now }

/-- Adds an outcome to the last bucket, or to a new one if that is full. -/
def addTo (bucketLength : Span) (now : Instant) (o : Outcome) : List Bucket → List Bucket
  | [] => [({ start := now } : Bucket).add o]
  | [b] =>
    if b.start + bucketLength ≤ now then [b, ({ start := now } : Bucket).add o] else [b.add o]
  | b :: c :: rest => b :: addTo bucketLength now o (c :: rest)

def record (w : Window) (now : Instant) (o : Outcome) : Window :=
  let w := w.prune now
  { w with buckets := addTo w.bucketLength now o w.buckets }

/-- The counts of the buckets held. -/
def counts (buckets : List Bucket) : Health :=
  buckets.foldl (fun h b =>
    { total := h.total + b.successes + b.infrastructureFailures
      errors := h.errors + b.infrastructureFailures
      serviceFailures := h.serviceFailures + b.serviceFailures }) {}

/-- Prunes the window and counts what is left. -/
def health (w : Window) (now : Instant) : Window × Health :=
  let w := w.prune now
  (w, counts w.buckets)

def reset (w : Window) : Window := { w with buckets := [] }

end Window

end ServiceBinding
