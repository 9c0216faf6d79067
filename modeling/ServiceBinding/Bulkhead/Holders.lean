import ServiceBinding.Bulkhead

/-!
# Named holders of places in a bulkhead

Holders share one bulkhead. Each holds at most one place: let in, waiting in line for a slot, or
running. After every change the holders in line that are entitled to a slot start, so none waits
while a slot is free.
-/

namespace ServiceBinding

/-- How far a holder has come. -/
inductive HolderStage
  | admitted
  | acquiring
  | running
  deriving DecidableEq, Inhabited

/-- Who has a place, and how far it has come. -/
structure Holder where
  name : String
  ticket : Ticket
  stage : HolderStage
  deriving DecidableEq, Inhabited

/-- A bulkhead and those who have its places. -/
structure Holders where
  bulkhead : Bulkhead
  holders : List Holder := []
  nextTicket : Ticket := 0
  deriving Inhabited

namespace Holders

/-- What is done in the name of a holder. -/
inductive Request
  /-- Asks for a place. -/
  | enter
  /-- Lines up for a slot with the place. -/
  | acquire
  /-- Gives up whatever the holder has. -/
  | drop
  deriving DecidableEq, Inhabited

/-- What comes of a request. -/
inductive Response
  | admitted
  | full
  | acquiring
  /-- There is no place to line up with. -/
  | ignored
  | dropped (had : Bool)
  deriving DecidableEq, Inhabited

def find? (hs : Holders) (name : String) : Option Holder := hs.holders.find? fun h => h.name = name

/-- The bulkhead after a holder gave up what it had. -/
def vacate (b : Bulkhead) (h : Holder) : Bulkhead :=
  match h.stage with
  | .admitted => b.leave
  | .acquiring => b.giveUp h.ticket
  | .running => b.finish h.ticket

/-- Removes a holder, if it is there. -/
def remove (hs : Holders) (name : String) : Holders :=
  match hs.find? name with
  | some h =>
    { hs with
      bulkhead := vacate hs.bulkhead h
      holders := hs.holders.filter fun other => other.ticket ≠ h.ticket }
  | none => hs

/-- A new place takes that of an earlier one, which is given up after the new one is got. -/
def enter (hs : Holders) (name : String) : Holders × Response :=
  match hs.bulkhead.tryEnter with
  | (bulkhead, true) =>
    let hs := ({ hs with bulkhead } : Holders).remove name
    ({ hs with
        holders := hs.holders ++ [⟨name, hs.nextTicket, .admitted⟩]
        nextTicket := hs.nextTicket + 1 },
      .admitted)
  | (bulkhead, false) => ({ hs with bulkhead }, .full)

def acquire (hs : Holders) (name : String) : Holders × Response :=
  match hs.find? name with
  | some ⟨_, t, .admitted⟩ =>
    ({ hs with
        bulkhead := hs.bulkhead.lineUp t
        holders := hs.holders.map fun h => if h.ticket = t then { h with stage := .acquiring } else h },
      .acquiring)
  | _ => (hs, .ignored)

/-- Every holder in line that is entitled to a slot starts. -/
def startAll (hs : Holders) : Holders :=
  let starts (h : Holder) : Bool := h.stage = .acquiring && hs.bulkhead.canStart h.ticket
  { hs with
    bulkhead := (hs.holders.filter starts).foldl (fun b _ => b.start) hs.bulkhead
    holders := hs.holders.map fun h => if starts h then { h with stage := .running } else h }

/-- Does what is asked for in the name of a holder. -/
def perform (hs : Holders) (name : String) (r : Request) : Holders × Response :=
  let (next, response) :=
    match r with
    | .enter => hs.enter name
    | .acquire => hs.acquire name
    | .drop => (hs.remove name, .dropped (hs.find? name).isSome)
  (next.startAll, response)

/-- The names of the holders that have come to a stage, in order. -/
def namesAt (hs : Holders) (stage : HolderStage) : List String :=
  ((hs.holders.filter fun h => h.stage = stage).map Holder.name).mergeSort

end Holders

end ServiceBinding
