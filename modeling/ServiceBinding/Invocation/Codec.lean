import ServiceBinding.Data.Width
import ServiceBinding.Invocation.Basic

/-!
# Typed arguments and results

A codec says how the values of a type are written as JSON values and read back. The arguments of a
method are a tuple of any length; the empty tuple is written as null, every other one as an array
of exactly its components.
-/

namespace ServiceBinding

open Json

/-- How values of a type are written and read. -/
structure Codec (α : Type u) where
  encode : α → Value
  decode : Value → Option α

namespace Codec

/-- A codec that reads what a document reading accepts. -/
def ofReading {α : Type u} (encode : α → Value) (read : Document → Option α) : Codec α :=
  ⟨encode, fun v => read (.ofValue v)⟩

def any : Codec Value := ⟨id, some⟩

def unit : Codec Unit :=
  ⟨fun _ => .null, fun v =>
    match v with
    | .null => some ()
    | _ => none⟩

def string : Codec String := ofReading .string Document.string?

def bool : Codec Bool := ofReading .bool Document.bool?

/-- Integers from `low` up to but not including `bound`. -/
def intWithin (low bound : Int) : Codec Int := ofReading .int (Document.intWithin? low bound)

def int64 : Codec Int := intWithin (-Width.bound63) Width.bound63

/-- Natural numbers of `bits` bits. -/
def natBits (bits : Nat) : Codec Nat := ofReading .nat (Document.natBelow? (Nat.pow 2 bits))

/-- A character is written as a text of one. -/
def char : Codec Char :=
  ⟨fun c => .string (String.singleton c), fun v =>
    match v with
    | .string s =>
      match s.toList with
      | [c] => some c
      | _ => none
    | _ => none⟩

def option {α : Type u} (c : Codec α) : Codec (Option α) :=
  ⟨fun x =>
    match x with
    | some a => c.encode a
    | none => .null, fun v =>
    match v with
    | .null => some none
    | v => (c.decode v).map some⟩

def list {α : Type u} (c : Codec α) : Codec (List α) :=
  ⟨fun xs => .array (xs.map c.encode), fun v =>
    match v with
    | .array vs => vs.mapM c.decode
    | _ => none⟩

/-- Pairs, written as arrays of two. -/
def pair {α : Type u} {β : Type v} (a : Codec α) (b : Codec β) : Codec (α × β) :=
  ⟨fun x => .array [a.encode x.1, b.encode x.2], fun v =>
    match v with
    | .array [x, y] => (a.decode x).bind fun x => (b.decode y).map fun y => (x, y)
    | _ => none⟩

/-- Maps from texts, written as objects. -/
def map {α : Type u} (c : Codec α) : Codec (List (String × α)) :=
  ⟨fun xs => .ofFields (xs.map fun kv => (kv.1, c.encode kv.2)), fun v =>
    match v with
    | .object fields => fields.mapM fun kv => (c.decode kv.2).map (kv.1, ·)
    | _ => none⟩

end Codec

/-- Tuples with the given component types. -/
inductive Tuple : List Type → Type 1
  | nil : Tuple []
  | cons {α : Type} {αs : List Type} (head : α) (tail : Tuple αs) : Tuple (α :: αs)

/-- One codec for each component type. -/
inductive Codecs : List Type → Type 1
  | nil : Codecs []
  | cons {α : Type} {αs : List Type} (head : Codec α) (tail : Codecs αs) : Codecs (α :: αs)

namespace Codecs

/-- The components of a tuple, written. -/
def encodeItems : {αs : List Type} → Codecs αs → Tuple αs → List Value
  | [], .nil, .nil => []
  | _ :: _, .cons c cs, .cons x xs => c.encode x :: cs.encodeItems xs

/-- Exactly as many components as the tuple has, read. -/
def decodeItems : {αs : List Type} → Codecs αs → List Value → Option (Tuple αs)
  | [], .nil, [] => some .nil
  | [], .nil, _ :: _ => none
  | _ :: _, .cons _ _, [] => none
  | _ :: _, .cons c cs, v :: vs =>
    match c.decode v, cs.decodeItems vs with
    | some x, some xs => some (.cons x xs)
    | _, _ => none

/-- A tuple as one value. -/
def encode {αs : List Type} (cs : Codecs αs) (t : Tuple αs) : Value :=
  match αs, cs with
  | [], _ => .null
  | _ :: _, cs => .array (cs.encodeItems t)

def decode {αs : List Type} (cs : Codecs αs) (v : Value) : Option (Tuple αs) :=
  match αs, cs, v with
  | [], .nil, .null => some .nil
  | [], _, _ => none
  | _ :: _, cs, .array vs => cs.decodeItems vs
  | _ :: _, _, _ => none

/-- Tuples as values of one type. -/
def toCodec {αs : List Type} (cs : Codecs αs) : Codec (Tuple αs) := ⟨cs.encode, cs.decode⟩

end Codecs

namespace Invocation

/-- Reads the arguments as one value of some type: as an array, or, if there are none and that does
not read, as null. -/
def decodeArgs {α : Type u} (read : Value → Option α) (i : Invocation) : Except CodecError α :=
  match read (.array i.args) with
  | some x => .ok x
  | none =>
    match if i.args.isEmpty then read .null else none with
    | some x => .ok x
    | none => .error (.malformed "")

/-- An invocation with the arguments of a tuple. -/
def ofTuple {αs : List Type} (method : String) (cs : Codecs αs) (t : Tuple αs) : Invocation :=
  withArgs method (cs.encode t)

end Invocation

end ServiceBinding
