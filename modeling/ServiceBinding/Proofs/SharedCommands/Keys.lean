import ServiceBinding.Proofs.SharedCommands.Isolated
import ServiceBinding.Service.Descriptor

/-!
# Which calls share a command

The key of a command is the text of the service key and the group of the method, joined by `#`, and the
text of a service key joins API and qualifier by `@`. Nothing is escaped, so a text tells its parts only as
long as the separator does not stand in them: `joined_eq_iff` says what else two joined texts can be
equal by, and `commandKey_eq_iff` what this makes of command keys. `command_keys` adds that calls under
different keys do not touch each other.
-/

namespace ServiceBinding

/-! ## Joined texts -/

/-- The text `a`, `sep`, `b` is also the text `c`, `sep`, `d`, but for a later `sep`. -/
def Shifts (sep a b c d : String) : Prop := ∃ x, c = a ++ sep ++ x ∧ b = x ++ sep ++ d

section Joined

variable {sep a b c d : String} {ch : Char}

theorem Shifts.joined_eq (h : Shifts sep a b c d) : a ++ sep ++ b = c ++ sep ++ d := by
  obtain ⟨x, rfl, rfl⟩ := h
  simp only [String.append_assoc]

/-- The later separator is a part of what stands before it. -/
theorem Shifts.mem (hsep : sep.toList = [ch]) (h : Shifts sep a b c d) : ch ∈ c.toList := by
  obtain ⟨x, rfl, -⟩ := h
  simp [hsep]

theorem shifts_of_append (hsep : sep.toList = [ch]) {between : List Char}
    (hc : c.toList = a.toList ++ between) (hb : ch :: b.toList = between ++ ch :: d.toList) :
    a = c ∧ b = d ∨ Shifts sep a b c d := by
  cases between with
  | nil =>
    left
    constructor
    · rw [← String.toList_inj, hc, List.append_nil]
    · rw [← String.toList_inj]
      exact (List.cons.inj hb).2
  | cons first x =>
    right
    obtain ⟨rfl, hrest⟩ := List.cons.inj hb
    refine ⟨String.ofList x, ?_, ?_⟩
    · rw [← String.toList_inj, hc]
      simp [hsep]
    · rw [← String.toList_inj, hrest]
      simp [hsep]

/-- Texts joined by a character are equal if their parts are, or if one is cut later than the other. -/
theorem joined_eq_iff (hsep : sep.toList = [ch]) :
    a ++ sep ++ b = c ++ sep ++ d ↔ a = c ∧ b = d ∨ Shifts sep a b c d ∨ Shifts sep c d a b := by
  constructor
  · intro h
    have hlists : a.toList ++ ch :: b.toList = c.toList ++ ch :: d.toList := by
      simpa [hsep] using congrArg String.toList h
    rcases List.append_eq_append_iff.1 hlists with ⟨between, hc, hb⟩ | ⟨between, ha, hd⟩
    · rcases shifts_of_append hsep hc hb with hequal | hshift
      · exact .inl hequal
      · exact .inr (.inl hshift)
    · rcases shifts_of_append hsep ha hd with ⟨hac, hbd⟩ | hshift
      · exact .inl ⟨hac.symm, hbd.symm⟩
      · exact .inr (.inr hshift)
  · rintro (⟨rfl, rfl⟩ | hshift | hshift)
    · rfl
    · exact hshift.joined_eq
    · exact hshift.joined_eq.symm

end Joined

/-! ## Texts of service keys -/

namespace ServiceKey

/-- The key is also the text of a key whose API takes in its separator and a part of its qualifier. -/
def ReadsAs (k k' : ServiceKey) : Prop :=
  ∃ x, k'.api = k.api ++ "@" ++ x ∧ k.qualifier = some (text ⟨x, k'.qualifier⟩)

theorem ReadsAs.mem {k k' : ServiceKey} (h : k.ReadsAs k') : '@' ∈ k'.api.toList := by
  obtain ⟨x, hapi, -⟩ := h
  simp [hapi]

/-- Keys of the same text are equal, or the API of one has a separator. -/
theorem text_eq_iff {k k' : ServiceKey} : k.text = k'.text ↔ k = k' ∨ k.ReadsAs k' ∨ k'.ReadsAs k := by
  obtain ⟨api, qualifier⟩ := k
  obtain ⟨api', qualifier'⟩ := k'
  cases qualifier with
  | none =>
    cases qualifier' with
    | none => simp [text, ReadsAs]
    | some q' => simp [text, ReadsAs]
  | some q =>
    cases qualifier' with
    | none => simp [text, ReadsAs, eq_comm]
    | some q' =>
      show api ++ "@" ++ q = api' ++ "@" ++ q' ↔ _
      rw [joined_eq_iff (show "@".toList = ['@'] by rfl)]
      simp [text, ReadsAs, Shifts]

end ServiceKey

/-! ## Command keys -/

namespace ApiDescriptor

variable {d d' : ApiDescriptor} {method method' : String}

theorem commandKey_eq_iff :
    d.commandKey method = d'.commandKey method' ↔
      d.key = d'.key ∧ d.groupOf method = d'.groupOf method' ∨
      (d.key.ReadsAs d'.key ∨ d'.key.ReadsAs d.key) ∧ d.groupOf method = d'.groupOf method' ∨
      Shifts "#" d.key.text (d.groupOf method) d'.key.text (d'.groupOf method') ∨
      Shifts "#" d'.key.text (d'.groupOf method') d.key.text (d.groupOf method) := by
  rw [commandKey, commandKey, joined_eq_iff (show "#".toList = ['#'] by rfl), ServiceKey.text_eq_iff,
    or_and_right, or_assoc]

/-- Names that hold no separator where one follows. -/
structure Plain (d : ApiDescriptor) : Prop where
  api : '@' ∉ d.api.toList
  key : '#' ∉ d.key.text.toList

theorem Plain.commandKey_eq_iff (h : d.Plain) (h' : d'.Plain) :
    d.commandKey method = d'.commandKey method' ↔
      d.key = d'.key ∧ d.groupOf method = d'.groupOf method' := by
  rw [ApiDescriptor.commandKey_eq_iff]
  constructor
  · rintro (hequal | ⟨hreads | hreads, -⟩ | hshift | hshift)
    · exact hequal
    · exact absurd hreads.mem h'.api
    · exact absurd hreads.mem h.api
    · exact absurd (hshift.mem rfl) h'.key
    · exact absurd (hshift.mem rfl) h.key
  · exact .inl

theorem commandKey_eq_iff_of_key (h : d.key = d'.key) :
    d.commandKey method = d'.commandKey method' ↔ d.groupOf method = d'.groupOf method' := by
  rw [commandKey, commandKey, h, ← String.toList_inj]
  simp [String.toList_inj]

end ApiDescriptor

/-! ## Calls under different keys -/

namespace SharedCommands

open ApiDescriptor

/-- **Which calls share a command.** The keys of two calls are equal if the service keys and the groups
are, and else exactly if the text of one is also that of the other with the separator at another place:
an `@` in the name of an API before a qualifier, or a `#` in a service key before a group. Calls of one
service differ by their groups alone, and so it is for any two services without such names. Whatever
happens under one key leaves what is under another as it is: the bulkhead, the breaker, and the calls. -/
theorem command_keys {ε α : Type} [FailureKind ε] (d d' : ApiDescriptor) (method method' : String) :
    (d.commandKey method = d'.commandKey method' ↔
      d.key = d'.key ∧ d.groupOf method = d'.groupOf method' ∨
      (d.key.ReadsAs d'.key ∨ d'.key.ReadsAs d.key) ∧ d.groupOf method = d'.groupOf method' ∨
      Shifts "#" d.key.text (d.groupOf method) d'.key.text (d'.groupOf method') ∨
      Shifts "#" d'.key.text (d'.groupOf method') d.key.text (d.groupOf method)) ∧
    (d.key = d'.key →
      (d.commandKey method = d'.commandKey method' ↔ d.groupOf method = d'.groupOf method')) ∧
    (d.Plain → d'.Plain →
      (d.commandKey method = d'.commandKey method' ↔
        d.key = d'.key ∧ d.groupOf method = d'.groupOf method')) ∧
    (d.commandKey method ≠ d'.commandKey method' →
      ∀ {config cs}, Commands.new config = .ok cs → ∀ (now : Instant) (es : List (Event ε α)),
        Trace.admits step (new cs now) es = true → ∀ e s',
          (Trace.after step (new cs now) es).step (.under (d.commandKey method) e) = some s' →
            s'.view (d'.commandKey method') =
              (Trace.after step (new cs now) es).view (d'.commandKey method')) := by
  refine ⟨commandKey_eq_iff, commandKey_eq_iff_of_key, Plain.commandKey_eq_iff, ?_⟩
  intro hne config cs hcs now es hes e s' hstep
  obtain ⟨-, rfl⟩ := Commands.new_eq_ok hcs
  have hkeyed : Keyed (Trace.after step (new { config } now) es) config :=
    (new_keyed config now).after hes
  apply hkeyed.step_view_of_not hstep
  show decide (d.commandKey method = d'.commandKey method') = false
  exact decide_eq_false hne

namespace Sample

/-- The lunch service of Europe, and a service that is called so. -/
def european : ApiDescriptor := { api := "lunch", qualifier := some "eu" }

def soCalled : ApiDescriptor := { api := "lunch@eu" }

/-- Two methods in two groups, of which one has a separator in its name. -/
def grouped : ApiDescriptor :=
  { api := "lunch", groups := Table.ofList [("reindex", "admin"), ("find", "fast#default")] }

def fast : ApiDescriptor := { api := "lunch#fast" }

/-- A call in the one group, and what opens a breaker of another service. -/
def groupedCall : List (Event InvocationError Unit) := [.under (grouped.commandKey "list") (.call 0)]

def opensEuropean : Event InvocationError Unit := .under (european.commandKey "list") (.tend .forceOpen)

end Sample

theorem command_keys_grouped :
    Sample.european.Plain ∧ Sample.grouped.Plain ∧
    Sample.grouped.commandKey "list" ≠ Sample.grouped.commandKey "reindex" ∧
    Sample.european.commandKey "list" ≠ Sample.grouped.commandKey "list" ∧
    ∃ s', (Trace.after step Sample.unused Sample.groupedCall).step Sample.opensEuropean = some s' ∧
      s'.view (Sample.grouped.commandKey "list") =
        (Trace.after step Sample.unused Sample.groupedCall).view (Sample.grouped.commandKey "list") := by
  have hEuropean : Sample.european.Plain := ⟨by decide, by decide⟩
  have hgrouped : Sample.grouped.Plain := ⟨by decide, by decide⟩
  obtain ⟨-, hgroups, -, -⟩ := command_keys (ε := InvocationError) (α := Unit) Sample.grouped
    Sample.grouped "list" "reindex"
  obtain ⟨-, -, hplain, hapart⟩ := command_keys (ε := InvocationError) (α := Unit) Sample.european
    Sample.grouped "list" "list"
  have hne : Sample.european.commandKey "list" ≠ Sample.grouped.commandKey "list" := by
    intro h
    exact absurd ((hplain hEuropean hgrouped).1 h).1 (by decide)
  have hcs : Commands.new {} = .ok {} := rfl
  refine ⟨hEuropean, hgrouped, ?_, hne, _, rfl, ?_⟩
  · intro h
    exact absurd ((hgroups rfl).1 h) (by decide)
  · exact hapart hne hcs 0 Sample.groupedCall rfl (.tend .forceOpen) _ rfl

/-- A qualified service and one whose name looks like it share a command, as do two services of which
one looks like the other with a group: a breaker opened for one of them refuses the calls of the other. -/
theorem command_key_shared :
    ¬ (Sample.european.commandKey "list" = Sample.soCalled.commandKey "list" ↔
      Sample.european.key = Sample.soCalled.key ∧
        Sample.european.groupOf "list" = Sample.soCalled.groupOf "list") ∧
    ¬ (Sample.grouped.commandKey "find" = Sample.fast.commandKey "find" ↔
      Sample.grouped.key = Sample.fast.key ∧ Sample.grouped.groupOf "find" = Sample.fast.groupOf "find") ∧
    results (Sample.soCalled.commandKey "list") Sample.unused
        [Sample.opensEuropean, .under (Sample.soCalled.commandKey "list") (.call 0)] =
      [.reading .nothing, .answer 0 (.error (.circuitOpen "lunch@eu#default"))] := by
  have hreads : Sample.european.commandKey "list" = Sample.soCalled.commandKey "list" := by decide
  have hshifts : Sample.grouped.commandKey "find" = Sample.fast.commandKey "find" := by decide
  refine ⟨?_, ?_, rfl⟩
  · intro h
    exact absurd (h.1 hreads).1 (by decide)
  · intro h
    exact absurd (h.1 hshifts).1 (by decide)

end SharedCommands

end ServiceBinding
