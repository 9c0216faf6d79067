import ServiceBinding.Proofs.GuardedProxy.Follows
import ServiceBinding.Proofs.SharedCommand.Answers

/-!
# What callers of a proxy see

A caller follows its call, so what the caller gets is told by the answer of the command: the result of the
provider, with the place of the call filled in, or an unavailability that names why the command failed. The
breaker is told the same (`call_surface`).
-/

namespace ServiceBinding

/-! ## Errors and their call sites -/

namespace InvocationError

/-- The same error, wherever the call came from. -/
def withoutCaller : InvocationError → InvocationError
  | .unavailable e => .unavailable { e with caller := none }
  | .service e => .service { e with caller := none }
  | .binding cause _ => .binding cause none
  | .serialization cause _ => .serialization cause none

/-- A call site is filled in where there is none, and nothing else changes. -/
theorem withCaller_spec (site : CallSite) (e : InvocationError) :
    (e.withCaller site).withoutCaller = e.withoutCaller ∧
      (e.withCaller site).caller? = some (e.caller?.getD site) := by
  have hor (caller : Option CallSite) : caller.or (some site) = some (caller.getD site) := by
    cases caller <;> rfl
  cases e <;> exact ⟨rfl, hor _⟩

@[simp] theorem isRetryable_withCaller (site : CallSite) (e : InvocationError) :
    (e.withCaller site).isRetryable = e.isRetryable := by
  cases e <;> rfl

end InvocationError

/-- The reason for which a service is unavailable when its command fails by itself. -/
def CommandError.unavailability? {ε : Type} : CommandError ε → Option UnavailableReason
  | .rejected _ => some .rejected
  | .timeout _ _ => some .timeout
  | .circuitOpen _ => some .circuitOpen
  | .aborted _ _ => some .aborted
  | .execution _ => none

/-- An answer of a command is the result of its operation, or a failure of the command itself. -/
theorem CommandError.answer_cases {ε α : Type} (answer : Except (CommandError ε) α) :
    (∃ provided : Except ε α, answer = provided.mapError CommandError.execution) ∨
      ∃ err reason, answer = .error err ∧ err.unavailability? = some reason := by
  rcases answer with (key | ⟨key, limit⟩ | key | ⟨key, reason⟩ | e) | a
  · exact .inr ⟨_, .rejected, rfl, rfl⟩
  · exact .inr ⟨_, .timeout, rfl, rfl⟩
  · exact .inr ⟨_, .circuitOpen, rfl, rfl⟩
  · exact .inr ⟨_, .aborted, rfl, rfl⟩
  · exact .inl ⟨.error e, rfl⟩
  · exact .inl ⟨.ok a, rfl⟩

theorem InvocationError.ofCommand_of_unavailability {service : String}
    {err : CommandError InvocationError} {reason : UnavailableReason}
    (h : err.unavailability? = some reason) :
    InvocationError.ofCommand service err =
      .unavailable ⟨service, reason, err.message InvocationError.message, none⟩ := by
  cases err <;> cases h <;> rfl

namespace GuardedProxy

namespace Run

variable {r : Run} {n m : Nat} {t : Ticket} {site : CallSite}
  {read : Json.Value → Option Json.Value}

/-! ## Calls in a run -/

/-- The service of the proxy, as it is shown. -/
def service (r : Run) : String := (r.state 0).service

/-- The key of the command that a call is executed under. -/
def keyOf (r : Run) (t : Ticket) : String := (r.state 0).keyOf t

/-- The command that a call is executed under. -/
def command (r : Run) (t : Ticket) : SharedCommand.Run InvocationError Json.Value := r.view (r.keyOf t)

/-- In step `n` a caller has a binding, and its call comes to its command. -/
def Dispatches (r : Run) (n : Nat) (t : Ticket) (site : CallSite)
    (read : Json.Value → Option Json.Value) : Prop :=
  ∃ signal shared b, r.event n = .wake t signal ∧
    (r.state n).shared.step (.wake t signal) = some shared ∧ shared.stage t = .calling site read b

/-- In step `n` the operation of a call starts, and asks the provider. -/
def Asks (r : Run) (n : Nat) (t : Ticket) : Prop := r.event n = .under (r.keyOf t) (.turn t)

/-- Before step `n` a caller has got its result. -/
def Returns (r : Run) (n : Nat) (t : Ticket) (result : Except InvocationError Json.Value) : Prop :=
  (r.state n).shared.stage t = .ended (some result)

theorem keyOf_eq (r : Run) (n : Nat) (t : Ticket) : (r.state n).keyOf t = r.keyOf t :=
  (r.fixed (Nat.zero_le n)).keyOf t

theorem event_of_dispatches (h : r.Dispatches n t site read) : (r.command t).event n = .call t := by
  obtain ⟨signal, shared, b, hevent, hshared, hcalling⟩ := h
  have hbegins : (r.state n).begins t signal = true := by
    simp [GuardedProxy.begins, hshared, hcalling, Proxy.Stage.isCalling]
  show (r.state n).commandEvent (r.keyOf t) (r.event n) = .call t
  have hkey : (r.state n).keyOf t = r.keyOf t := r.keyOf_eq n t
  simp [hevent, commandEvent, hbegins, hkey]

theorem event_of_asks (h : r.Asks n t) : (r.command t).event n = .turn t := by
  show (r.state n).commandEvent (r.keyOf t) (r.event n) = .turn t
  simp [show r.event n = _ from h, commandEvent]

/-- A call is dropped by nothing else. -/
theorem event_of_drop (h : (r.command t).event n = .drop t) :
    r.event n = .under (r.keyOf t) (.drop t) := by
  have hevent : (r.state n).commandEvent (r.keyOf t) (r.event n) = .drop t := h
  unfold commandEvent at hevent
  split at hevent
  · cases hevent
  · split at hevent <;> cases hevent
  · split at hevent
    · rename_i hk
      rw [← hk, ← hevent]
      assumption
    · cases hevent

theorem follows (h : r.Dispatches n t site read) (hm : n < m) :
    Follows r.service site read ((r.state m).shared.stage t) (((r.command t).state m).stage t) := by
  have hstate : Follows (r.state m).service site read ((r.state m).shared.stage t)
      ((r.state m).commands.stage ((r.state m).keyOf t) t) := by
    induction m, Nat.succ_le_of_lt hm using Nat.le_induction with
    | base =>
      obtain ⟨signal, shared, b, hevent, hshared, hcalling⟩ := h
      have hstep := r.steps n
      rw [hevent] at hstep
      exact follows_of_begin (r.keyed n) hshared hcalling hstep
    | succ m hm' ih => exact (ih hm').of_step (r.keyed m) (r.steps m)
  rwa [(r.fixed (Nat.zero_le m)).service, r.keyOf_eq] at hstate

/-- What a caller gets is told by the answer of its command. -/
theorem answer_of_returns (h : r.Dispatches n t site read) (hm : n < m)
    {result : Except InvocationError Json.Value} (hresult : r.Returns m t result) :
    ∃ answer, ((r.command t).state m).stage t = .returned answer ∧
      result = returned r.service site read answer := by
  have hfollows := follows h hm
  rw [show (r.state m).shared.stage t = _ from hresult] at hfollows
  generalize ((r.command t).state m).stage t = stage at hfollows ⊢
  cases hfollows with
  | answered => exact ⟨_, rfl, rfl⟩

theorem returns_of_answer (h : r.Dispatches n t site read) (hm : n < m)
    {answer : Except (CommandError InvocationError) Json.Value}
    (hanswer : ((r.command t).state m).stage t = .returned answer) :
    r.Returns m t (returned r.service site read answer) := by
  have hfollows := follows h hm
  rw [hanswer] at hfollows
  unfold Returns
  generalize (r.state m).shared.stage t = stage at hfollows ⊢
  cases hfollows with
  | answered => rfl

end Run

/-! ## Results -/

theorem returned_of_result (service : String) (site : CallSite)
    (provided : Except InvocationError Json.Value) :
    returned service site some (provided.mapError CommandError.execution) =
      provided.mapError (InvocationError.withCaller site) := by
  cases provided <;> rfl

theorem returned_of_failure {service : String} {site : CallSite}
    {err : CommandError InvocationError} {reason : UnavailableReason}
    (h : err.unavailability? = some reason) :
    returned service site some (.error err) =
      .error (.unavailable ⟨service, reason, err.message InvocationError.message, some site⟩) := by
  simp [returned, Except.mapError, InvocationError.ofCommand_of_unavailability h, Proxy.handOver,
    InvocationError.withCaller]

/-- What the breaker is told of an answer, the caller sees. -/
theorem outcome_of_returned (service : String) (site : CallSite)
    (answer : Except (CommandError InvocationError) Json.Value) :
    (Outcome.ofAnswer answer = .infrastructureFailure ↔
      ∃ e, returned service site some answer = .error e ∧ e.isRetryable = true) ∧
    (Outcome.ofAnswer answer = .success ↔ ∃ v, returned service site some answer = .ok v) ∧
    (Outcome.ofAnswer answer = .serviceFailure ↔
      ∃ e, returned service site some answer = .error e ∧ e.isRetryable = false) := by
  rcases CommandError.answer_cases answer with ⟨provided, rfl⟩ | ⟨err, reason, rfl, hreason⟩
  · rw [returned_of_result]
    cases provided with
    | ok v => simp [Except.mapError, Outcome.ofAnswer]
    | error e =>
      cases he : e.isRetryable with
      | true =>
        have hinfra : FailureKind.isInfrastructure e = true := he
        simp [Except.mapError, Outcome.ofAnswer, hinfra, he]
      | false =>
        have hinfra : FailureKind.isInfrastructure e = false := he
        simp [Except.mapError, Outcome.ofAnswer, hinfra, he]
  · rw [returned_of_failure hreason]
    have houtcome : Outcome.ofAnswer (α := Json.Value) (.error err) = .infrastructureFailure := by
      cases err <;> first | rfl | cases hreason
    simp [houtcome, InvocationError.isRetryable, InvocationError.isUnavailable]

/-- **What a caller gets.** A call that a caller dispatches asks the provider once at most, and never if its
command refuses it; while it is attended to and not dropped, it returns. If its operation ends in time, the
caller gets what the provider gave, a value or an error with the call site filled in; otherwise it gets an
unavailability of the service that names why the command failed. If the breaker let the call pass, it is told
one outcome: a failure of the infrastructure if the caller may retry, a success if the caller got a value, and
a failure of the service otherwise. What the log says the breaker was told is what has made it what it is. -/
theorem call_surface (r : Run) {n : Nat} {t : Ticket} {site : CallSite}
    (h : r.Dispatches n t site some) :
    (∀ m, (Breaker.new (.ofCommand (r.keyOf t) (r.config.settingsFor (r.keyOf t)))).Traces
      ((r.command t).log m) ((r.command t).state m).command.breaker) ∧
    (∀ j k, r.Asks j t → r.Asks k t → j = k) ∧
    ((r.command t).Attended t → (∀ m, r.event m ≠ .under (r.keyOf t) (.drop t)) →
      ∃ m > n, ∃ result, r.Returns m t result) ∧
    ∀ m > n, ∀ result, r.Returns m t result →
      ∃ answer, ((r.command t).state m).stage t = .returned answer ∧
        ((∃ key, answer = .error (.circuitOpen key) ∨ answer = .error (.rejected key)) →
          ∀ k, ¬ r.Asks k t) ∧
        (∀ v, (r.command t).EndsInTime t (.result (.ok v)) → result = .ok v) ∧
        (∀ e, (r.command t).EndsInTime t (.result (.error e)) →
          ∃ e', result = .error e' ∧ e'.withoutCaller = e.withoutCaller ∧
            e'.caller? = some (e.caller?.getD site)) ∧
        ((∀ provided, ¬ (r.command t).EndsInTime t (.result provided)) →
          ∃ err reason, answer = .error err ∧ err.unavailability? = some reason ∧
            result = .error (.unavailable
              ⟨r.service, reason, err.message InvocationError.message, some site⟩)) ∧
        ∀ p, (r.command t).granted n = some p →
          ∃ outcome, (r.command t).made m t =
              [(.acquire, .permission (some p)), (.record p outcome, .nothing)] ∧
            (outcome = .infrastructureFailure ↔ ∃ e, result = .error e ∧ e.isRetryable = true) ∧
            (outcome = .success ↔ ∃ v, result = .ok v) ∧
            (outcome = .serviceFailure ↔ ∃ e, result = .error e ∧ e.isRetryable = false) := by
  have hcall := Run.event_of_dispatches h
  refine ⟨(r.command t).traces, fun j k hj hk => ?_, fun hattended hkept => ?_,
    fun m hm result hresult => ?_⟩
  · exact SharedCommand.Run.turn_unique (Run.event_of_asks hj) (Run.event_of_asks hk)
  · have hdrop : ∀ k, (r.command t).event k ≠ .drop t := fun k hk =>
      hkept k (Run.event_of_drop hk)
    obtain ⟨m, hm, answer, hanswer⟩ := SharedCommand.Run.returns_of_call hattended hdrop hcall
    exact ⟨m, hm, _, Run.returns_of_answer h hm hanswer⟩
  · obtain ⟨answer, hanswer, rfl⟩ := Run.answer_of_returns h hm hresult
    have hends {provided : Except InvocationError Json.Value}
        (hin : (r.command t).EndsInTime t (.result provided)) :
        answer = provided.mapError CommandError.execution :=
      SharedCommand.Run.answer_of_ends hin hanswer
    refine ⟨answer, hanswer, ?_, fun v hin => ?_, fun e hin => ?_, fun hout => ?_, fun p hp => ?_⟩
    · rintro ⟨key, hrefused⟩ k hk
      have hturn := Run.event_of_asks hk
      rcases hrefused with rfl | rfl
      · exact SharedCommand.Run.never_starts (.inl rfl) hanswer k hturn
      · exact SharedCommand.Run.never_starts (.inr rfl) hanswer k hturn
    · rw [hends hin, returned_of_result]
      rfl
    · rw [hends hin, returned_of_result]
      exact ⟨_, rfl, InvocationError.withCaller_spec site e⟩
    · rcases CommandError.answer_cases answer with ⟨provided, rfl⟩ | ⟨err, reason, rfl, hreason⟩
      · exact absurd (SharedCommand.Run.ends_of_answer hanswer) (hout provided)
      · exact ⟨err, reason, rfl, hreason, returned_of_failure hreason⟩
    · obtain ⟨-, hmade⟩ := SharedCommand.Run.made_of_returned hcall hp hm hanswer
      exact ⟨Outcome.ofAnswer answer, hmade, outcome_of_returned r.service site answer⟩

namespace Sample

def notFound : ServiceException := ⟨"NotFound", "no such table", "1", none⟩

/-- One slot, and no place to wait for it. -/
def narrow : CommandConfig := { defaults := { coreSize := some 1, queueSize := some 0 } }

/-- The first caller binds the proxy. Its call takes the only slot, and the next one is rejected. Then the
provider answers the first call with an error of its own. -/
def callsEvents : List Event :=
  [.wake 1 (.request (.call "lobby" some)), .wake 1 (.turn SharedProxy.Sample.components),
    .wake 1 (.registry SharedProxy.Sample.components (.ok (some (SharedProxy.Sample.entry "here")))),
    .wake 1 (.component (.ok (SharedProxy.Sample.binding "here"))),
    .wake 2 (.request (.call "bar" some)), .under "finder#default" (.turn 1),
    .under "finder#default" (.finish 1 (.result (.error (.service notFound)))),
    .under "finder#default" (.collect 1), .pass (Span.ofSeconds 60)]

def callsRun : Run :=
  .ofEvents SharedProxy.Sample.finder {} narrow rfl (fun _ => { method := "list" }) callsEvents rfl

theorem callsRun_kept (m : Nat) : callsRun.event m ≠ .under (callsRun.keyOf 1) (.drop 1) := by
  intro hdrop
  rcases Nat.lt_or_ge m 9 with hm | hm
  · interval_cases m
    all_goals cases hdrop
  · have hover : callsRun.event m = .pass 0 := List.getD_eq_default _ _ hm
    cases hover.symm.trans hdrop

theorem callsRun_attended : (callsRun.command 1).Attended 1 := by
  have hover : (((callsRun.command 1).state 8).stage 1).isOver = true := rfl
  -- the call has come in step 3 and is over after step 7
  have hwaits {n x} (h : ((callsRun.command 1).state n).stage 1 = .waiting x) :
      n ≤ 7 ∧ x.deadline ≤ Span.ofSeconds 60 := by
    rcases Nat.lt_or_ge n 8 with hn | hn
    · refine ⟨by omega, ?_⟩
      interval_cases n
      case «0» | «1» | «2» | «3» => cases h
      all_goals
        obtain rfl := SharedCommand.Stage.waiting.inj h
        decide
    · rw [SharedCommand.Run.stage_of_over hover hn] at h
      cases h
  constructor
  · intro n x h
    obtain ⟨hn, hx⟩ := hwaits h
    exact ⟨9, by omega, hx⟩
  · intro n x h _
    exact ⟨7, (hwaits h).1, rfl⟩

end Sample

/-- The first caller gets the error of the provider, with its call site, and the call counts as a failure of
the service. The second one may try again; its call asks nobody and counts as a failure of the
infrastructure. -/
theorem call_surface_callsRun :
    (Sample.callsRun.Dispatches 3 1 "lobby" some ∧
      (∃ m > 3, ∃ result, Sample.callsRun.Returns m 1 result) ∧
      ∃ e, Sample.callsRun.Returns 8 1 (.error e) ∧ e.caller? = some "lobby" ∧
        (Sample.callsRun.command 1).made 8 1 =
          [(.acquire, .permission (some .normal)), (.record .normal .serviceFailure, .nothing)] ∧
        (Breaker.new (.ofCommand "finder#default" (Sample.narrow.settingsFor "finder#default"))).Traces
          ((Sample.callsRun.command 1).log 8) ((Sample.callsRun.command 1).state 8).command.breaker) ∧
    Sample.callsRun.Dispatches 4 2 "bar" some ∧
      (∀ k, ¬ Sample.callsRun.Asks k 2) ∧
      ∃ e, Sample.callsRun.Returns 5 2 (.error (.unavailable e)) ∧ e.service = "finder" ∧
        e.reason = .rejected ∧ e.caller = some "bar" ∧
        (Sample.callsRun.command 2).made 5 2 =
          [(.acquire, .permission (some .normal)),
            (.record .normal .infrastructureFailure, .nothing)] := by
  have hfirst : Sample.callsRun.Dispatches 3 1 "lobby" some := ⟨_, _, _, rfl, rfl, rfl⟩
  have hsecond : Sample.callsRun.Dispatches 4 2 "bar" some := ⟨_, _, _, rfl, rfl, rfl⟩
  constructor
  · obtain ⟨htraces, -, hreturns, hresults⟩ := call_surface Sample.callsRun hfirst
    have hends : (Sample.callsRun.command 1).EndsInTime 1
        (.result (.error (.service Sample.notFound))) := ⟨7, _, rfl, rfl⟩
    have hresult : Sample.callsRun.Returns 8 1
        (.error (.service { Sample.notFound with caller := some "lobby" })) := rfl
    obtain ⟨-, -, -, -, herror, -, houtcome⟩ := hresults 8 (by decide) _ hresult
    obtain ⟨e, he, -, hcaller⟩ := herror _ hends
    obtain ⟨outcome, hmade, -, -, hservice⟩ := houtcome .normal rfl
    obtain rfl := hservice.2 ⟨_, rfl, rfl⟩
    exact ⟨hfirst, hreturns Sample.callsRun_attended Sample.callsRun_kept, e, he ▸ hresult, hcaller, hmade,
      htraces 8⟩
  · obtain ⟨-, -, -, hresults⟩ := call_surface Sample.callsRun hsecond
    have hrejected : ((Sample.callsRun.command 2).state 5).stage 2 =
        .returned (.error (.rejected "finder#default")) := rfl
    have hresult : Sample.callsRun.Returns 5 2 (.error (.unavailable ⟨"finder", .rejected,
        "Command finder#default rejected: bulkhead full", some "bar"⟩)) := rfl
    obtain ⟨answer, hanswer, hnever, -, -, -, houtcome⟩ := hresults 5 (by decide) _ hresult
    have hkey : answer = .error (.rejected "finder#default") :=
      (SharedCommand.Stage.returned.inj (hanswer.symm.trans hrejected))
    obtain ⟨outcome, hmade, hinfrastructure, -⟩ := houtcome .normal rfl
    obtain rfl := hinfrastructure.2 ⟨_, rfl, rfl⟩
    exact ⟨hsecond, hnever ⟨_, .inr hkey⟩, _, hresult, rfl, rfl, rfl, hmade⟩

end GuardedProxy

end ServiceBinding
