import ServiceBinding.Invocation.Error
import ServiceBinding.Proofs.SharedCommands.Run

/-!
# Keys do not touch each other

What happens under a key is told by the events of that key alone. Without the events of all other keys the
run goes on as before, at each step with the same command and the same calls under the key
(`Keyed.step_congr`), and shows the same (`isolated`).
-/

namespace ServiceBinding

namespace SharedCommands

variable {ε α : Type}

/-! ## Events and results of a key -/

/-- Whether an event matters to a key: time does, and what happens under the key. -/
def Event.concerns (key : String) : Event ε α → Bool
  | .pass _ => true
  | .under k _ => k = key

/-- Whether an event uses the command of a key. -/
def Event.uses (key : String) : Event ε α → Bool
  | .pass _ => false
  | .under k _ => k = key

/-- What an event shows to whoever brought it about. -/
inductive Result (ε α : Type)
  | nothing
  /-- A call is over, with its answer. -/
  | answer (t : Ticket) (answer : Except (CommandError ε) α)
  /-- The breaker was asked. -/
  | reading (r : Breaker.Reading)

variable [FailureKind ε]

/-- What an event under a command shows, of which `c'` comes. -/
def resultOf (c c' : SharedCommand ε α) (e : SharedCommand.Event ε α) : Result ε α :=
  match e with
  | .tend o => .reading (c.command.breaker.perform c.now o).2
  | e =>
    match e.caller? with
    | none => .nothing
    | some t =>
      match c'.stage t with
      | .returned answer => .answer t answer
      | _ => .nothing

/-- The results of the events under a key, one after the other. -/
def results (key : String) (s : SharedCommands ε α) : List (Event ε α) → List (Result ε α)
  | [] => []
  | e :: es =>
    match s.step e with
    | none => []
    | some s' =>
      if e.uses key then resultOf (s.view key) (s'.view key) (e.view key) :: results key s' es
      else results key s' es

/-! ## Two runs side by side -/

variable {s s' o : SharedCommands ε α} {key : String} {config : CommandConfig} {e : Event ε α}

/-- An event of another key leaves a key as it is. -/
theorem Keyed.step_view_of_not (hs : Keyed s config) (h : s.step e = some s')
    (hc : e.concerns key = false) : s'.view key = s.view key := by
  have hstep := hs.step_view h key
  cases e with
  | pass d => cases hc
  | under k e =>
    have hk : k ≠ key := of_decide_eq_false hc
    rw [Event.view, if_neg hk] at hstep
    exact (Option.some.inj hstep).symm

/-- An event of a key does the same wherever there is the same under the key. -/
theorem Keyed.step_congr (hs : Keyed s config) (ho : Keyed o config) (hview : o.view key = s.view key)
    (h : s.step e = some s') (hc : e.concerns key = true) :
    ∃ o', o.step e = some o' ∧ o'.view key = s'.view key := by
  have hstep := hs.step_view h key
  rw [← hview] at hstep
  cases e with
  | pass d =>
    refine ⟨_, rfl, ?_⟩
    exact Option.some.inj ((ho.step_view (e := .pass d) rfl key).symm.trans hstep)
  | under k e =>
    obtain rfl : k = key := of_decide_eq_true hc
    obtain ⟨hpass, -⟩ := step_under h
    rw [Event.view, if_pos rfl] at hstep
    have hown := step_of_view hpass hstep
    refine ⟨_, hown, put_view ?_ (now_of_step hpass hstep)⟩
    exact ((ho.isOf k).step hstep).key

/-- The events that concern a key, alone, from any state that has the same under the key. -/
theorem Keyed.alone (hs : Keyed s config) (ho : Keyed o config) (hview : o.view key = s.view key)
    {es : List (Event ε α)} (hes : Trace.admits step s es = true) :
    Trace.admits step o (es.filter (·.concerns key)) = true ∧
      results key o (es.filter (·.concerns key)) = results key s es ∧
      (Trace.after step o (es.filter (·.concerns key))).view key = (Trace.after step s es).view key := by
  induction es generalizing s o with
  | nil => exact ⟨rfl, rfl, hview⟩
  | cons e es ih =>
    obtain ⟨s', hstep, htail⟩ := Trace.admits_cons.1 hes
    rw [Trace.after_cons hstep]
    cases hc : e.concerns key with
    | false =>
      -- the run with the event goes on, and the one without it stays where it is
      have huses : e.uses key = false := by
        cases e with
        | pass d => rfl
        | under k e => exact hc
      rw [List.filter_cons_of_neg (by simp [hc])]
      simp only [results, hstep, huses]
      exact ih (hs.next hstep) ho (hview.trans (hs.step_view_of_not hstep hc).symm) htail
    | true =>
      -- both runs go on, and have the same under the key again
      obtain ⟨o', hown, hview'⟩ := hs.step_congr ho hview hstep hc
      obtain ⟨hadmits, hresults, hafter⟩ := ih (hs.next hstep) (ho.next hown) hview' htail
      rw [List.filter_cons_of_pos hc, Trace.after_cons hown]
      refine ⟨Trace.admits_cons.2 ⟨o', hown, hadmits⟩, ?_, hafter⟩
      simp only [results, hstep, hown, hview, hview', hresults]

/-! ## One command for each key -/

/-- Under a key the events are those of a single command. -/
theorem Keyed.single (hs : Keyed s config) {es : List (Event ε α)}
    (hes : Trace.admits step s es = true) (key : String) :
    Trace.admits SharedCommand.step (s.view key) (es.map (·.view key)) = true ∧
      (Trace.after step s es).view key =
        Trace.after SharedCommand.step (s.view key) (es.map (·.view key)) := by
  induction es generalizing s with
  | nil => exact ⟨rfl, rfl⟩
  | cons e es ih =>
    obtain ⟨s', hstep, htail⟩ := Trace.admits_cons.1 hes
    have hview := hs.step_view hstep key
    obtain ⟨hadmits, hafter⟩ := ih (hs.next hstep) htail
    rw [List.map_cons, Trace.after_cons hstep, Trace.after_cons hview]
    exact ⟨Trace.admits_cons.2 ⟨s'.view key, hview, hadmits⟩, hafter⟩

theorem Keyed.after (hs : Keyed s config) {es : List (Event ε α)}
    (hes : Trace.admits step s es = true) : Keyed (Trace.after step s es) config := by
  induction es generalizing s with
  | nil => exact hs
  | cons e es ih =>
    obtain ⟨s', hstep, htail⟩ := Trace.admits_cons.1 hes
    rw [Trace.after_cons hstep]
    exact ih (hs.next hstep) htail

/-- A step makes the command of the key that it uses, if there is none, and takes none away. -/
theorem Keyed.step_contains (hs : Keyed s config) (h : s.step e = some s') (key : String) :
    s'.commands.table.contains key = (s.commands.table.contains key || e.uses key) := by
  cases e with
  | pass d =>
    obtain rfl := Option.some.inj h
    simp [Event.uses]
  | under k e =>
    obtain ⟨-, c, hc, rfl⟩ := step_under h
    have hkey : c.command.key = k := ((hs.isOf k).step hc).key
    simp only [put, Commands.put, Table.contains, Table.get?_set, hkey, Event.uses]
    by_cases hk : k = key
    · simp [hk]
    · simp [hk, Ne.symm hk]

theorem Keyed.after_contains (hs : Keyed s config) {es : List (Event ε α)}
    (hes : Trace.admits step s es = true) (key : String) :
    (Trace.after step s es).commands.table.contains key =
      (s.commands.table.contains key || es.any (·.uses key)) := by
  induction es generalizing s with
  | nil => simp [Trace.after]
  | cons e es ih =>
    obtain ⟨s', hstep, htail⟩ := Trace.admits_cons.1 hes
    rw [Trace.after_cons hstep, ih (hs.next hstep) htail, hs.step_contains hstep, List.any_cons,
      Bool.or_assoc]

/-! ## Isolation -/

/-- **Keys do not touch each other.** In any run of the commands of a configuration, and for any key:
without the events of all other keys the run can take place as well, shows the same under the key, and
leaves the same there: the command with its breaker and its bulkhead, and the calls with their answers.
All events under the key are those of one command, made with the settings of the key when it is first
used. -/
theorem isolated {cs : Commands} (hcs : Commands.new config = .ok cs) (now : Instant)
    {es : List (Event ε α)} (hes : Trace.admits step (new cs now) es = true) (key : String) :
    (Trace.admits step (new cs now) (es.filter (·.concerns key)) = true ∧
      results key (new cs now) (es.filter (·.concerns key)) = results key (new cs now) es ∧
      (Trace.after step (new cs now) (es.filter (·.concerns key))).view key =
        (Trace.after step (new cs now) es).view key) ∧
    (Trace.admits SharedCommand.step (.new key (config.settingsFor key) now) (es.map (·.view key)) =
        true ∧
      (Trace.after step (new cs now) es).view key =
        Trace.after SharedCommand.step (.new key (config.settingsFor key) now) (es.map (·.view key))) ∧
    ((Trace.after step (new cs now) es).view key).command.settings = config.settingsFor key ∧
    (Trace.after step (new cs now) es).commands.table.contains key = es.any (·.uses key) := by
  obtain ⟨-, rfl⟩ := Commands.new_eq_ok hcs
  have hkeyed : Keyed (new { config } now : SharedCommands ε α) config := new_keyed config now
  refine ⟨hkeyed.alone hkeyed rfl hes, hkeyed.single hes key, ?_, ?_⟩
  · exact ((hkeyed.after hes).isOf key).settings
  · exact hkeyed.after_contains hes key

namespace Sample

/-- One call under each of two keys; the second breaker is opened by hand, and refuses one more. -/
def twoKeys : List (Event InvocationError Unit) :=
  [.under "lunch" (.call 0), .under "dinner" (.call 0), .under "dinner" (.tend .forceOpen), .pass 3,
    .under "lunch" (.turn 0), .under "dinner" (.call 1), .under "lunch" (.finish 0 (.result (.ok ()))),
    .under "lunch" (.collect 0)]

def unused : SharedCommands InvocationError Unit := new {} 0

end Sample

theorem isolated_twoKeys :
    Commands.new {} = .ok {} ∧ Trace.admits step Sample.unused Sample.twoKeys = true ∧
    results "lunch" Sample.unused (Sample.twoKeys.filter (·.concerns "lunch")) =
      [.nothing, .nothing, .nothing, .answer 0 (.ok ())] ∧
    results "dinner" Sample.unused (Sample.twoKeys.filter (·.concerns "dinner")) =
      [.nothing, .reading .nothing, .answer 1 (.error (.circuitOpen "dinner"))] := by
  have hcs : Commands.new {} = .ok {} := rfl
  have hes : Trace.admits step Sample.unused Sample.twoKeys = true := rfl
  obtain ⟨⟨-, hlunch, -⟩, -⟩ := isolated hcs 0 hes "lunch"
  obtain ⟨⟨-, hdinner, -⟩, -⟩ := isolated hcs 0 hes "dinner"
  exact ⟨hcs, hes, hlunch.trans rfl, hdinner.trans rfl⟩

end SharedCommands

end ServiceBinding
