import ServiceBinding.Invocation.Codec

/-!
# Tuples as arguments

The arguments of a call are written as one tuple: the empty one is null, any other an array of its components,
and null, an array and any other value make argument lists in three different ways. They are read as an array,
or else, if there are none, as null. Nothing is lost between the two (`decodeArgs_eq`): a list of arguments
reads as a tuple exactly if it has an argument for each component and no more, and each one reads as its
component. `tuple_arguments` says so, and that a tuple whose components read back comes back itself.
-/

namespace ServiceBinding

open Json

/-! ## Writing a tuple -/

/-- How the components of a tuple are written. A component may have no JSON form. -/
inductive Writers : List Type → Type 1
  | nil : Writers []
  | cons {α : Type} {αs : List Type} (head : α → Except CodecError Value) (tail : Writers αs) :
      Writers (α :: αs)

namespace Writers

variable {αs : List Type}

/-- The components, written one after the other. -/
def items : {αs : List Type} → Writers αs → Tuple αs → Except CodecError (List Value)
  | [], .nil, .nil => .ok []
  | _ :: _, .cons w ws, .cons x xs =>
    match w x with
    | .error e => .error e
    | .ok v => (ws.items xs).map (v :: ·)

/-- A tuple as one value. -/
def write (ws : Writers αs) (t : Tuple αs) : Except CodecError Value :=
  match αs with
  | [] => .ok .null
  | _ :: _ => (ws.items t).map .array

end Writers

/-- An invocation with the arguments of a tuple, unless a component has no JSON form. -/
def Invocation.ofTuple? {αs : List Type} (method : String) (ws : Writers αs) (t : Tuple αs) :
    Except CodecError Invocation :=
  (ws.write t).map (withArgs method)

namespace Codecs

variable {αs : List Type}

/-- A codec writes every value of its type. -/
def writers : {αs : List Type} → Codecs αs → Writers αs
  | [], .nil => .nil
  | _ :: _, .cons c cs => .cons (fun x => .ok (c.encode x)) cs.writers

theorem items_writers (cs : Codecs αs) (t : Tuple αs) : cs.writers.items t = .ok (cs.encodeItems t) := by
  induction t with
  | nil =>
    cases cs with
    | nil => rfl
  | cons x xs ih =>
    cases cs with
    | cons c cs =>
      rw [writers, Writers.items, ih]
      rfl

theorem ofTuple?_writers (method : String) (cs : Codecs αs) (t : Tuple αs) :
    Invocation.ofTuple? method cs.writers t = .ok (.ofTuple method cs t) := by
  cases t with
  | nil => rfl
  | cons x xs =>
    rw [Invocation.ofTuple?, Writers.write, items_writers]
    rfl

/-! ## Reading a tuple -/

/-- The component at a place reads the value. -/
def Reads : {αs : List Type} → Codecs αs → Nat → Value → Prop
  | [], .nil, _, _ => False
  | _ :: _, .cons c _, 0, v => ∃ x, c.decode v = some x
  | _ :: _, .cons _ cs, k + 1, v => cs.Reads k v

variable {α : Type} {c : Codec α} {cs : Codecs αs}

theorem decodeItems_cons (v : Value) (vs : List Value) :
    (∃ t, (cons c cs).decodeItems (v :: vs) = some t) ↔
      (∃ x, c.decode v = some x) ∧ ∃ t, cs.decodeItems vs = some t := by
  rw [decodeItems]
  cases c.decode v with
  | none => simp
  | some x => cases cs.decodeItems vs <;> simp

theorem forall_reads_cons (v : Value) (vs : List Value) :
    (∀ k u, (v :: vs)[k]? = some u → (cons c cs).Reads k u) ↔
      (∃ x, c.decode v = some x) ∧ ∀ k u, vs[k]? = some u → cs.Reads k u := by
  constructor
  · intro h
    exact ⟨h 0 v rfl, fun k u hu => h (k + 1) u hu⟩
  · rintro ⟨hfirst, hrest⟩ k u hu
    cases k with
    | zero =>
      obtain rfl : v = u := by simpa using hu
      exact hfirst
    | succ k => exact hrest k u (by simpa using hu)

/-- Each component reads its own value, and none is left over. -/
theorem decodeItems_eq_some_iff (cs : Codecs αs) (vs : List Value) :
    (∃ t, cs.decodeItems vs = some t) ↔
      vs.length = αs.length ∧ ∀ k v, vs[k]? = some v → cs.Reads k v := by
  induction cs generalizing vs with
  | nil => cases vs <;> simp [decodeItems]
  | cons c cs ih =>
    cases vs with
    | nil => simp [decodeItems]
    | cons v vs =>
      rw [decodeItems_cons, forall_reads_cons, ih, List.length_cons, List.length_cons,
        Nat.add_right_cancel_iff, and_left_comm]

/-- The second reading of a list without arguments, as null, is one of the empty tuple only. -/
theorem decodeArgs_eq (cs : Codecs αs) (i : Invocation) :
    i.decodeArgs cs.decode =
      match cs.decodeItems i.args with
      | some t => .ok t
      | none => .error (.malformed "") := by
  obtain ⟨method, args, version⟩ := i
  cases cs with
  | nil => cases args <;> rfl
  | cons c cs =>
    simp only [Invocation.decodeArgs, decode]
    cases hitems : (cons c cs).decodeItems args with
    | some t => rfl
    | none => cases args <;> rfl

theorem decodeArgs_of_decodeItems {cs : Codecs αs} {i : Invocation} {t : Tuple αs}
    (h : cs.decodeItems i.args = some t) : i.decodeArgs cs.decode = .ok t := by
  rw [decodeArgs_eq, h]

theorem decodeArgs_eq_ok_iff (cs : Codecs αs) (i : Invocation) :
    (∃ t, i.decodeArgs cs.decode = .ok t) ↔
      i.args.length = αs.length ∧ ∀ k v, i.args[k]? = some v → cs.Reads k v := by
  rw [← decodeItems_eq_some_iff, decodeArgs_eq]
  cases cs.decodeItems i.args <;> simp

/-- Arguments that do not read as a tuple are refused. -/
theorem decodeArgs_of_length_ne (cs : Codecs αs) {i : Invocation} (h : i.args.length ≠ αs.length) :
    i.decodeArgs cs.decode = .error (.malformed "") := by
  have hnone : ¬∃ t, cs.decodeItems i.args = some t := by
    rw [decodeItems_eq_some_iff]
    exact fun hreads => h hreads.1
  rw [decodeArgs_eq]
  cases hitems : cs.decodeItems i.args with
  | none => rfl
  | some t => exact absurd ⟨t, hitems⟩ hnone

end Codecs

/-! ## There and back -/

/-- Each component of the tuple is written as a value that reads as the component. -/
inductive ReadsBack : {αs : List Type} → Writers αs → Codecs αs → Tuple αs → Prop
  | nil : ReadsBack .nil .nil .nil
  | cons {α : Type} {αs : List Type} {w : α → Except CodecError Value} {c : Codec α} {x : α} {v : Value}
      {ws : Writers αs} {cs : Codecs αs} {xs : Tuple αs} (hwrite : w x = .ok v)
      (hread : c.decode v = some x) (hrest : ReadsBack ws cs xs) :
      ReadsBack (.cons w ws) (.cons c cs) (.cons x xs)

section

variable {αs : List Type} {ws : Writers αs} {cs : Codecs αs} {t : Tuple αs}

theorem ReadsBack.exists_items (h : ReadsBack ws cs t) :
    ∃ vs, ws.items t = .ok vs ∧ vs.length = αs.length ∧ cs.decodeItems vs = some t := by
  induction h with
  | nil => exact ⟨[], rfl, rfl, rfl⟩
  | @cons _ _ w c x v ws cs xs hwrite hread hrest ih =>
    obtain ⟨vs, hitems, hlength, hdecode⟩ := ih
    refine ⟨v :: vs, ?_, by simp [hlength], ?_⟩
    · rw [Writers.items, hwrite, hitems]
      rfl
    · rw [Codecs.decodeItems, hread, hdecode]

/-- As many arguments as components, whichever of its forms the tuple is written in. -/
theorem ReadsBack.exists_args (h : ReadsBack ws cs t) (method : String) :
    ∃ vs, Invocation.ofTuple? method ws t = .ok { method, args := vs } ∧ vs.length = αs.length ∧
      cs.decodeItems vs = some t := by
  obtain ⟨vs, hitems, hlength, hdecode⟩ := h.exists_items
  refine ⟨vs, ?_, hlength, hdecode⟩
  cases αs with
  | nil =>
    obtain rfl : vs = [] := List.eq_nil_of_length_eq_zero hlength
    rfl
  | cons α αs =>
    rw [Invocation.ofTuple?, Writers.write, hitems]
    rfl

end

namespace Codecs

/-- **Argument tuples.** A tuple whose components read back makes an invocation with an argument for each
component, and is what these arguments read as. A list of arguments reads as a tuple if and only if it has
an argument for each component and each reads as its component; so no arguments never read as a tuple with
components, and any arguments never as the tuple without. -/
theorem tuple_arguments {αs : List Type} (cs : Codecs αs) :
    (∀ (ws : Writers αs) (t : Tuple αs) (method : String), ReadsBack ws cs t →
      ∃ i, Invocation.ofTuple? method ws t = .ok i ∧ i.method = method ∧
        i.args.length = αs.length ∧ i.decodeArgs cs.decode = .ok t) ∧
    (∀ i : Invocation, (∃ t, i.decodeArgs cs.decode = .ok t) ↔
      i.args.length = αs.length ∧ ∀ k v, i.args[k]? = some v → cs.Reads k v) ∧
    ∀ i : Invocation, (i.args = [] ∧ αs ≠ [] ∨ i.args ≠ [] ∧ αs = []) →
      i.decodeArgs cs.decode = .error (.malformed "") := by
  refine ⟨?_, cs.decodeArgs_eq_ok_iff, ?_⟩
  · intro ws t method h
    obtain ⟨vs, hargs, hlength, hdecode⟩ := h.exists_args method
    exact ⟨_, hargs, rfl, hlength, decodeArgs_of_decodeItems hdecode⟩
  · intro i h
    apply decodeArgs_of_length_ne
    intro hlength
    rcases h with ⟨hnone, hsome⟩ | ⟨hsome, rfl⟩
    · exact hsome (List.eq_nil_of_length_eq_zero (by rw [← hlength, hnone]; rfl))
    · exact hsome (List.eq_nil_of_length_eq_zero hlength)

namespace Sample

/-- A number, something that may be absent, a pair and a list. -/
def orderCodecs : Codecs [Int, Option String, Int × String, List String] :=
  .cons .int64 (.cons (.option .string) (.cons (.pair .int64 .string) (.cons (.list .string) .nil)))

def order : Tuple [Int, Option String, Int × String, List String] :=
  .cons (-3) (.cons none (.cons (5, "grönt") (.cons [] .nil)))

end Sample

/-- Components that are themselves null or arrays, and the tuple without components. -/
theorem tuple_arguments_order :
    (∃ i, Invocation.ofTuple? "order" Sample.orderCodecs.writers Sample.order = .ok i ∧
      i.args = [.int (-3), .null, .array [.int 5, .string "grönt"], .array []] ∧
      i.decodeArgs Sample.orderCodecs.decode = .ok Sample.order) ∧
    (Invocation.decodeArgs Sample.orderCodecs.decode { method := "order" } = .error (.malformed "")) ∧
    (∃ i, Invocation.ofTuple? "count" Codecs.nil.writers Tuple.nil = .ok i ∧ i.args = [] ∧
      i.decodeArgs Codecs.nil.decode = .ok .nil) ∧
    Invocation.decodeArgs Codecs.nil.decode { method := "count", args := [.null] } =
      .error (.malformed "") := by
  have horder : ReadsBack Sample.orderCodecs.writers Sample.orderCodecs Sample.order :=
    .cons rfl rfl (.cons rfl rfl (.cons rfl rfl (.cons rfl rfl .nil)))
  obtain ⟨hback, -, hrefused⟩ := tuple_arguments Sample.orderCodecs
  obtain ⟨hempty, -, hgiven⟩ := tuple_arguments Codecs.nil
  obtain ⟨i, hi, -, -, hdecode⟩ := hback _ _ "order" horder
  obtain ⟨j, hj, -, hnone, hunit⟩ := hempty _ _ "count" ReadsBack.nil
  refine ⟨⟨i, hi, ?_, hdecode⟩, hrefused _ (.inl ⟨rfl, nofun⟩),
    ⟨j, hj, List.eq_nil_of_length_eq_zero hnone, hunit⟩, hgiven _ (.inr ⟨nofun, rfl⟩)⟩
  rw [ofTuple?_writers] at hi
  rw [← Except.ok.inj hi]
  rfl

end Codecs

end ServiceBinding
