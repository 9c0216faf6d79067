import ServiceBinding.Proofs.Breaker.Move
import ServiceBinding.Proofs.SharedCommand.Invariant

/-!
# What calls have the breaker do

A log of a run keeps each operation of the breaker with the call it was made for and what it showed.
`Run.traces` says that the breaker of a state is the work of its log: done one after the other, the
operations lead there from a new breaker and show what the log says. `Run.accounts` says what the log
holds of one call, for each stage the call can be in.
-/

namespace ServiceBinding

namespace Breaker

/-- An operation of a breaker, with the call it was made for and what it showed. -/
structure Entry where
  caller : Option Ticket
  time : Instant
  operation : Operation
  reading : Reading

/-- The operations of the log, done one after the other, lead from one breaker to the other one and show
what the log says. -/
def Traces (b : Breaker) : List Entry → Breaker → Prop
  | [], b' => b' = b
  | x :: log, b' =>
    (b.perform x.time x.operation).2 = x.reading ∧
      (b.perform x.time x.operation).1.Traces log b'

theorem Traces.append {b b' b'' : Breaker} {log log' : List Entry} (h : b.Traces log b')
    (h' : b'.Traces log' b'') : b.Traces (log ++ log') b'' := by
  induction log generalizing b with
  | nil =>
    have hb : b' = b := h
    rwa [← hb]
  | cons x log ih => exact ⟨h.1, ih h.2⟩

theorem Traces.of_acquire {b b' : Breaker} {now : Instant} {p : Option Permission} {t : Option Ticket}
    (h : b.tryAcquire now = (b', p)) : b.Traces [⟨t, now, .acquire, .permission p⟩] b' := by
  simp [Traces, perform, h]

theorem Traces.of_record (b : Breaker) (now : Instant) (p : Permission) (o : Outcome)
    (t : Option Ticket) : b.Traces [⟨t, now, .record p o, .nothing⟩] (b.record now p o) :=
  ⟨rfl, rfl⟩

end Breaker

/-! ## Outcomes of answers -/

/-- How a call counts that got the answer. -/
def Outcome.ofAnswer {ε α : Type} [FailureKind ε] : Except (CommandError ε) α → Outcome
  | .ok _ => .success
  | .error (.execution e) =>
    if FailureKind.isInfrastructure e then .infrastructureFailure else .serviceFailure
  | .error _ => .infrastructureFailure

section

variable {ε α : Type} [FailureKind ε]

theorem Ending.ofAnswer (e : Ending ε α) (key : String) :
    Outcome.ofAnswer (e.answer key) = e.outcome := by
  rcases e with (_ | _) | _ <;> rfl

theorem Outcome.ofAnswer_eq_success {answer : Except (CommandError ε) α} :
    Outcome.ofAnswer answer = .success ↔ ∃ a, answer = .ok a := by
  unfold Outcome.ofAnswer
  split
  · simp
  · split <;> simp
  · simp

theorem Outcome.ofAnswer_eq_serviceFailure {answer : Except (CommandError ε) α} :
    Outcome.ofAnswer answer = .serviceFailure ↔
      ∃ e, answer = .error (.execution e) ∧ FailureKind.isInfrastructure e = false := by
  unfold Outcome.ofAnswer
  split
  · simp
  · split <;> simp_all
  · simp_all

/-- Of the answers that are counted, all but those of the operation itself count as failures of the
infrastructure. -/
theorem Outcome.ofAnswer_eq_infrastructureFailure {answer : Except (CommandError ε) α}
    (h : ∀ key, answer ≠ .error (.circuitOpen key)) :
    Outcome.ofAnswer answer = .infrastructureFailure ↔
      (∃ key, answer = .error (.rejected key)) ∨
      (∃ key limit, answer = .error (.timeout key limit)) ∨
      (∃ key reason, answer = .error (.aborted key reason)) ∨
      ∃ e, answer = .error (.execution e) ∧ FailureKind.isInfrastructure e = true := by
  rcases answer with (key | ⟨key, limit⟩ | key | ⟨key, reason⟩ | e) | a
  · simp [Outcome.ofAnswer]
  · simp [Outcome.ofAnswer]
  · exact absurd rfl (h key)
  · simp [Outcome.ofAnswer]
  · by_cases he : FailureKind.isInfrastructure e = true
    · simp [Outcome.ofAnswer, he]
    · simp [Outcome.ofAnswer, he]
  · simp [Outcome.ofAnswer]

end

namespace SharedCommand

variable {ε α : Type} [FailureKind ε]

/-! ## The log -/

/-- What an event has the breaker do. -/
def uses (s : SharedCommand ε α) : Event ε α → List Breaker.Entry
  | .call t =>
    let granted := (s.command.breaker.tryAcquire s.now).2
    let asked := ⟨some t, s.now, .acquire, .permission granted⟩
    match granted, s.command.bulkhead.tryEnter.2 with
    | some p, false => [asked, ⟨some t, s.now, .record p .infrastructureFailure, .nothing⟩]
    | _, _ => [asked]
  | .collect t =>
    match s.stage t, s.work t with
    | .waiting x, .ended e => [⟨some t, s.now, .record x.permission e.outcome, .nothing⟩]
    | _, _ => []
  | .deadline t =>
    match s.stage t with
    | .waiting x => [⟨some t, s.now, .record x.permission .infrastructureFailure, .nothing⟩]
    | _ => []
  | .tend o => [⟨none, s.now, o, (s.command.breaker.perform s.now o).2⟩]
  | .pass _ | .turn _ | .finish _ _ | .drop _ => []

/-- What the log holds of a call: the operations made for it and what they showed. -/
def entriesOf (log : List Breaker.Entry) (t : Ticket) : List (Breaker.Operation × Breaker.Reading) :=
  (log.filter fun x => x.caller = some t).map fun x => (x.operation, x.reading)

@[simp] theorem entriesOf_append (log log' : List Breaker.Entry) (t : Ticket) :
    entriesOf (log ++ log') t = entriesOf log t ++ entriesOf log' t := by
  simp [entriesOf]

variable {s s' : SharedCommand ε α} {e : Event ε α} {t : Ticket}

theorem Move.traces (m : Move s e s') :
    s.command.breaker.Traces (s.uses e) s'.command.breaker := by
  cases m with
  | pass | started | finished | droppedInLine | dropped => exact rfl
  | refused hs hb =>
    simp only [uses, hb]
    exact .of_acquire hb
  | rejected hs hb hfull =>
    simp only [uses, hb, Bulkhead.tryEnter_of_full hfull]
    exact .append (.of_acquire hb) (.of_record _ _ _ _ _)
  | admitted hs hb hroom =>
    simp only [uses, hb, Bulkhead.tryEnter_of_room hroom]
    exact .of_acquire hb
  | collected hs hw =>
    simp only [uses, hs, hw]
    exact .of_record _ _ _ _ _
  | expiredInLine hs | expired hs =>
    simp only [uses, hs]
    exact .of_record _ _ _ _ _
  | tended => exact ⟨rfl, rfl⟩

/-- What an event has the breaker do is done for the call that goes on. -/
theorem caller_of_uses {x : Breaker.Entry} (h : x ∈ s.uses e) : x.caller = e.caller? := by
  cases e with
  | call t =>
    simp only [uses] at h
    split at h
    · rcases List.mem_cons.mp h with rfl | h
      · rfl
      · rw [List.mem_singleton.mp h]
        rfl
    · rw [List.mem_singleton.mp h]
      rfl
  | collect t | deadline t =>
    simp only [uses] at h
    split at h
    · rw [List.mem_singleton.mp h]
      rfl
    · cases h
  | tend o =>
    rw [List.mem_singleton.mp h]
    rfl
  | pass | turn | finish | drop => cases h

theorem uses_of_others (h : e.caller? ≠ some t) : entriesOf (s.uses e) t = [] := by
  have hnone : (s.uses e).filter (fun x => x.caller = some t) = [] := by
    rw [List.filter_eq_nil_iff]
    intro x hx
    simpa [caller_of_uses hx] using h
  rw [entriesOf, hnone, List.map_nil]

/-- A call that comes asks the breaker first. -/
theorem uses_call (s : SharedCommand ε α) (t : Ticket) :
    ∃ rest, entriesOf (s.uses (.call t)) t =
      (.acquire, .permission (s.command.breaker.tryAcquire s.now).2) :: rest := by
  simp only [uses]
  split <;> simp [entriesOf]

/-! ## One call in the log -/

/-- What the log holds of a call in the stage. -/
def Stage.Accounts : Stage ε α → List (Breaker.Operation × Breaker.Reading) → Prop
  | .unstarted, made => made = []
  | .waiting x, made => made = [(.acquire, .permission (some x.permission))]
  | .returned (.error (.circuitOpen _)), made => made = [(.acquire, .permission none)]
  | .returned answer, made =>
    ∃ p, made = [(.acquire, .permission (some p)), (.record p (Outcome.ofAnswer answer), .nothing)]
  | .dropped, made => ∃ p, made = [(.acquire, .permission (some p))]

theorem Stage.accounts_of_answer (ending : Ending ε α) (key : String) (p : Permission) :
    (Stage.returned (ending.answer key)).Accounts
      [(.acquire, .permission (some p)), (.record p ending.outcome, .nothing)] := by
  rw [← ending.ofAnswer key]
  rcases ending with (_ | _) | _ <;> exact ⟨p, rfl⟩

theorem Stage.Accounts.of_returned {answer : Except (CommandError ε) α}
    {made : List (Breaker.Operation × Breaker.Reading)} (h : (Stage.returned answer).Accounts made) :
    (∃ key, answer = .error (.circuitOpen key)) ∧ made = [(.acquire, .permission none)] ∨
      (∀ key, answer ≠ .error (.circuitOpen key)) ∧
        ∃ p, made =
          [(.acquire, .permission (some p)), (.record p (Outcome.ofAnswer answer), .nothing)] := by
  rcases answer with (key | ⟨key, limit⟩ | key | ⟨key, reason⟩ | e) | a
  case error.circuitOpen => exact .inl ⟨⟨key, rfl⟩, h⟩
  all_goals exact .inr ⟨nofun, h⟩

theorem Move.accounts (m : Move s e s') {made : List (Breaker.Operation × Breaker.Reading)}
    (h : (s.stage t).Accounts made) : (s'.stage t).Accounts (made ++ entriesOf (s.uses e) t) := by
  have hnew (hu : s.stage t = .unstarted) : made = [] := by
    rwa [hu] at h
  have hasked {x} (hx : s.stage t = .waiting x) :
      made = [(.acquire, .permission (some x.permission))] := by
    rwa [hx] at h
  by_cases hcaller : e.caller? = some t
  · cases m with
    | pass | finished | tended => cases hcaller
    | refused hs hb =>
      obtain rfl := Option.some.inj hcaller
      simp [hnew hs, uses, entriesOf, hb, Stage.Accounts]
    | rejected hs hb hfull =>
      obtain rfl := Option.some.inj hcaller
      simp [hnew hs, uses, entriesOf, hb, Bulkhead.tryEnter_of_full hfull, Stage.Accounts,
        Outcome.ofAnswer]
    | admitted hs hb hroom =>
      obtain rfl := Option.some.inj hcaller
      simp [hnew hs, uses, entriesOf, hb, Bulkhead.tryEnter_of_room hroom, Stage.Accounts,
        Execution.permission]
    | started hs =>
      obtain rfl := Option.some.inj hcaller
      simp [hasked hs, uses, entriesOf, Stage.Accounts, Execution.permission]
    | collected hs hw =>
      obtain rfl := Option.some.inj hcaller
      simpa [hasked hs, uses, entriesOf, hs, hw, Execution.permission] using
        Stage.accounts_of_answer _ _ _
    | expiredInLine hs | expired hs =>
      obtain rfl := Option.some.inj hcaller
      simp [hasked hs, uses, entriesOf, hs, Stage.Accounts, Execution.permission, Outcome.ofAnswer]
    | droppedInLine hs | dropped hs =>
      obtain rfl := Option.some.inj hcaller
      simp [hasked hs, uses, entriesOf, Stage.Accounts]
  · rw [m.stage_of_others hcaller, uses_of_others hcaller, List.append_nil]
    exact h

/-! ## Logs of runs -/

namespace Run

variable (r : Run ε α) (n : Nat) (t : Ticket)

/-- What the breaker has done before step `n`. -/
def log : Nat → List Breaker.Entry
  | 0 => []
  | n + 1 => log n ++ (r.state n).uses (r.event n)

/-- What the breaker has done for a call before step `n`. -/
def made : List (Breaker.Operation × Breaker.Reading) := entriesOf (r.log n) t

theorem made_succ : r.made (n + 1) t = r.made n t ++ entriesOf ((r.state n).uses (r.event n)) t := by
  rw [made, log, entriesOf_append, made]

theorem traces :
    (Breaker.new (BreakerSettings.ofCommand r.key r.settings)).Traces (r.log n)
      (r.state n).command.breaker := by
  induction n with
  | zero =>
    rw [r.starts]
    exact rfl
  | succ n ih => exact ih.append (r.move n).traces

theorem accounts : ((r.state n).stage t).Accounts (r.made n t) := by
  induction n with
  | zero =>
    rw [r.starts]
    exact rfl
  | succ n ih =>
    rw [made_succ]
    exact (r.move n).accounts ih

variable {r n t} {m : Nat}

theorem made_prefix (hm : n ≤ m) : r.made n t <+: r.made m t := by
  induction m, hm using Nat.le_induction with
  | base => exact List.prefix_rfl
  | succ m hm ih =>
    rw [made_succ]
    exact ih.trans (List.prefix_append _ _)

/-- The first thing done for a call is to ask, when it comes. -/
theorem asked (hcall : r.event n = .call t) (hm : n < m) :
    ∃ rest, r.made m t =
      (.acquire, .permission ((r.state n).command.breaker.tryAcquire (r.state n).now).2) :: rest := by
  have hnothing : r.made n t = [] := by
    have haccounts := r.accounts n t
    rwa [unstarted_of_call hcall] at haccounts
  obtain ⟨rest, huses⟩ := (r.state n).uses_call t
  obtain ⟨later, hlater⟩ := made_prefix (r := r) (t := t) (Nat.succ_le_of_lt hm)
  rw [made_succ, hnothing, hcall, huses] at hlater
  exact ⟨rest ++ later, hlater.symm⟩

end Run

end SharedCommand

end ServiceBinding
