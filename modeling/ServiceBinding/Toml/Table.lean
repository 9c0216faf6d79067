import ServiceBinding.Json.Document

/-!
# Building TOML tables

A TOML text defines tables piecemeal: by headers, by dotted keys and by inline tables. How a table
came to be decides what may still be added to it: a header may add to tables that earlier headers
or dotted keys only passed through, and dotted keys may add to tables that dotted keys created;
nothing is ever defined twice.
-/

namespace ServiceBinding.Toml

open Json

/-- How a table came to be. -/
inductive Origin
  /-- By a header of its own. -/
  | header
  /-- On the way to the table of a header. -/
  | passed
  /-- On the way to a dotted key. -/
  | dotted
  /-- As an inline table, which is complete. -/
  | inline
  deriving DecidableEq

/-- What stands under a key. -/
inductive Node
  /-- A value that is no table. -/
  | leaf (d : Document)
  /-- An array of tables, each defined by a header. -/
  | tables (items : List (List (String × Node)))
  | table (origin : Origin) (entries : List (String × Node))

/-- The contents of a table. -/
abbrev Entries := List (String × Node)

/-- What is done to the table at the end of a path. -/
abbrev Edit := Origin → Entries → Option (Origin × Entries)

/-- Edits the table that a path of a header (or, if `dotted`, of a key) leads to, creating tables on
the way. -/
def editAt (dotted : Bool) : List String → Edit → Edit
  | [], edit => edit
  | name :: path, edit => fun origin entries =>
    match Ordered.lookup name entries with
    | none => do
      let (o, es) ← editAt dotted path edit (if dotted then .dotted else .passed) []
      return (origin, Ordered.insert name (.table o es) entries)
    | some (.table o es) =>
      if o = .inline || (dotted && o = .header) then none
      else do
        let (o, es) ← editAt dotted path edit o es
        return (origin, Ordered.insert name (.table o es) entries)
    | some (.tables items) =>
      match items.getLast? with
      | none => none
      | some es => do
        -- a path through an array of tables goes on in the one added last
        let (_, es) ← editAt dotted path edit .header es
        return (origin, Ordered.insert name (.tables (items.dropLast ++ [es])) entries)
    | some (.leaf _) => none

/-- Defines `name` in a table that a key with (`dotted`) or without a path led to. -/
def define (dotted : Bool) (name : String) (node : Node) : Edit := fun origin entries =>
  if dotted = (origin = .dotted : Bool) && (Ordered.lookup name entries).isNone then
    some (origin, Ordered.insert name node entries)
  else none

/-- Defines the value of a key. -/
def defineKey (path : List String) (name : String) (node : Node) : Edit :=
  editAt true path (define (!path.isEmpty) name node)

/-- Defines the table of a header. -/
def openTable (path : List String) (name : String) : Edit :=
  editAt false path fun origin entries =>
    match Ordered.lookup name entries with
    | none => some (origin, Ordered.insert name (.table .header []) entries)
    | some (.table .passed es) => some (origin, Ordered.insert name (.table .header es) entries)
    | some _ => none

/-- Adds a table to the array of tables of a header. -/
def appendTable (path : List String) (name : String) : Edit :=
  editAt false path fun origin entries =>
    match Ordered.lookup name entries with
    | none => some (origin, Ordered.insert name (.tables [[]]) entries)
    | some (.tables items) => some (origin, Ordered.insert name (.tables (items ++ [[]])) entries)
    | some _ => none

mutual

/-- The document of a node. -/
def Node.document : Node → Document
  | .leaf d => d
  | .tables items => .array (tablesDocuments items)
  | .table _ entries => .object (entriesFields entries)

def tablesDocuments : List (List (String × Node)) → List Document
  | [] => []
  | es :: rest => .object (entriesFields es) :: tablesDocuments rest

def entriesFields : List (String × Node) → List (Option String × Document)
  | [] => []
  | (name, node) :: rest => (some name, node.document) :: entriesFields rest

end

end ServiceBinding.Toml
