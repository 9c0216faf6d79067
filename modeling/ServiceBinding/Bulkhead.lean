import ServiceBinding.Data.Double

/-!
# Bulkheads

A bulkhead holds at most `coreSize + queueSize` calls, of which at most `coreSize` run. A call is
let in or refused at once; let in, it may line up for an execution slot, and the calls in the line
get slots in the order in which they lined up: the first `coreSize` of the line are entitled to one.
A call gives its place back when it ends, or when it is given up before. A bulkhead is never shut
down, so once a call is let in, nothing refuses it a slot.

Calls are named by tickets, which the caller keeps distinct.
-/

namespace ServiceBinding

/-- The name of a call inside a bulkhead. -/
abbrev Ticket := Nat

/-- The places of one pool and its queue, and who has them. -/
structure Bulkhead where
  name : String
  coreSize : Nat
  queueSize : Nat
  /-- The calls let in that have not ended. -/
  held : Nat := 0
  /-- The calls that have lined up for a slot, in order; those that run are in front. -/
  line : List Ticket := []
  /-- The calls that run. -/
  active : Nat := 0
  /-- The calls let in that do not run yet. -/
  waiting : Nat := 0
  totalCalls : Nat := 0
  totalRejections : Nat := 0
  deriving DecidableEq, Inhabited

namespace Bulkhead

def new (name : String) (coreSize queueSize : Nat) : Bulkhead := { name, coreSize, queueSize }

/-- Lets a call in, unless pool and queue are full. -/
def tryEnter (b : Bulkhead) : Bulkhead × Bool :=
  let b := { b with totalCalls := b.totalCalls + 1 }
  if b.held < b.coreSize + b.queueSize then
    ({ b with held := b.held + 1, waiting := b.waiting + 1 }, true)
  else ({ b with totalRejections := b.totalRejections + 1 }, false)

/-- Lines a call up for a slot. -/
def lineUp (b : Bulkhead) (t : Ticket) : Bulkhead := { b with line := b.line ++ [t] }

/-- Whether the call is entitled to a slot. -/
def canStart (b : Bulkhead) (t : Ticket) : Bool := (b.line.take b.coreSize).contains t

/-- The call takes its slot and runs. -/
def start (b : Bulkhead) : Bulkhead := { b with waiting := b.waiting - 1, active := b.active + 1 }

/-- A call is given up before it lined up. -/
def leave (b : Bulkhead) : Bulkhead := { b with held := b.held - 1, waiting := b.waiting - 1 }

/-- A call is given up in the line. -/
def giveUp (b : Bulkhead) (t : Ticket) : Bulkhead := { b.leave with line := b.line.erase t }

/-- A running call ends. -/
def finish (b : Bulkhead) (t : Ticket) : Bulkhead :=
  { b with held := b.held - 1, active := b.active - 1, line := b.line.erase t }

/-- The share of the slots in use, a double. -/
def utilization (active coreSize : Nat) : Double :=
  .ofFloat (active.toUInt64.toFloat / coreSize.toUInt64.toFloat)

/-- The wording of a refusal. -/
def fullMessage (name : String) : String := "Bulkhead " ++ name ++ " is full"

end Bulkhead

end ServiceBinding
