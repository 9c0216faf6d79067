import Mathlib.Tactic.IntervalCases
import ServiceBinding.Invocation.Error
import ServiceBinding.Proofs.SharedCommand.Log

/-!
# One outcome for each call

What a call owes the breaker is one outcome, if the breaker has let it pass, and none otherwise.
`one_outcome` says that it makes it, whatever way it ends, and that the outcome is the one of the
answer its caller gets. A call that is not dropped ends: past its deadline it can always go on
(`can_go_on`), and when it has gone on twice it has returned (`Run.returns_of_waiting`).
-/

namespace ServiceBinding

namespace SharedCommand

variable {ε α : Type} [FailureKind ε]

/-! ## Totals -/

section

variable {s s' : SharedCommand ε α} {e : Event ε α} {t : Ticket}

/-- The calls that the breaker lets pass are those that come to the bulkhead. -/
def Tallied (s : SharedCommand ε α) : Prop :=
  s.command.breaker.totalRequests =
    s.command.breaker.totalRejections + s.command.bulkhead.totalCalls

theorem Move.tallied (m : Move s e s') (h : s.Tallied) : s'.Tallied := by
  unfold Tallied at h ⊢
  cases m with
  | pass | started | finished | droppedInLine | dropped => exact h
  | refused hs hb =>
    obtain ⟨hrequests, hrejections⟩ := Breaker.totals_of_tryAcquire hb
    simp only [hrequests, hrejections, if_true]
    omega
  | @rejected _ b p hs hb hfull =>
    obtain ⟨hrequests, hrejections⟩ := Breaker.totals_of_tryAcquire hb
    obtain ⟨hrequests', hrejections'⟩ := b.totals_of_record s.now p .infrastructureFailure
    simp only [Bulkhead.tryEnter_of_full hfull, hrequests', hrejections', hrequests, hrejections]
    simp only [reduceCtorEq, if_false]
    omega
  | admitted hs hb hroom =>
    obtain ⟨hrequests, hrejections⟩ := Breaker.totals_of_tryAcquire hb
    simp only [Bulkhead.tryEnter_of_room hroom, Bulkhead.lineUp, hrequests, hrejections]
    simp only [reduceCtorEq, if_false]
    omega
  | collected | expiredInLine | expired =>
    obtain ⟨hrequests, hrejections⟩ := s.command.breaker.totals_of_record s.now _ _
    exact hrequests.trans (h.trans (congrArg (· + _) hrejections.symm))
  | @tended o ho =>
    have hother : o ≠ .acquire := by
      rintro rfl
      cases ho
    obtain ⟨hrequests, hrejections⟩ :=
      (s.command.breaker.perform_move s.now o).totals_of_others hother
    exact hrequests.trans (h.trans (congrArg (· + _) hrejections.symm))

/-! ## How a call goes on -/

/-- Past its deadline a call can always go on. -/
theorem can_go_on {x : Execution} (h : s.stage t = .waiting x) (hdue : x.deadline ≤ s.now) :
    ∃ e : Event ε α, e.caller? = some t ∧ e ≠ .drop t ∧ (s.step e).isSome = true := by
  by_cases hready : s.isReady t x = true
  · cases x with
    | queued p d =>
      have hturn : s.command.canStart t = true := hready
      exact ⟨.turn t, rfl, by simp, by simp [step, h, hturn]⟩
    | running p d =>
      cases hw : s.work t with
      | ended ending => exact ⟨.collect t, rfl, by simp, by simp [step, h, hw]⟩
      | unstarted | running => simp [isReady, hw] at hready
  · exact ⟨.deadline t, rfl, by simp, by simp [step, h, hdue, hready]⟩

/-- A call that goes on returns, or starts its operation. -/
theorem Move.goes_on (m : Move s e s') (hcaller : e.caller? = some t) (hdrop : e ≠ .drop t)
    {x : Execution} (h : s.stage t = .waiting x) :
    (∃ answer, s'.stage t = .returned answer) ∨
      (∃ p d, x = .queued p d) ∧ ∃ p d, s'.stage t = .waiting (.running p d) := by
  cases m with
  | pass | finished | tended => cases hcaller
  | refused hs | rejected hs | admitted hs =>
    obtain rfl := Option.some.inj hcaller
    simp [hs] at h
  | started hs =>
    obtain rfl := Option.some.inj hcaller
    rw [hs] at h
    obtain rfl := Stage.waiting.inj h
    exact .inr ⟨⟨_, _, rfl⟩, _, _, Function.update_self _ _ _⟩
  | collected | expiredInLine | expired =>
    obtain rfl := Option.some.inj hcaller
    exact .inl ⟨_, Function.update_self _ _ _⟩
  | droppedInLine | dropped =>
    obtain rfl := Option.some.inj hcaller
    exact absurd rfl hdrop

/-- A call that the breaker refuses has come to nothing else. -/
theorem Move.refused_of_call (m : Move s (.call t) s')
    (h : (s.command.breaker.tryAcquire s.now).2 = none) :
    s'.command.bulkhead = s.command.bulkhead ∧
      s'.stage t = .returned (.error (.circuitOpen s.command.key)) := by
  cases m with
  | refused => exact ⟨rfl, by simp⟩
  | rejected _ hb | admitted _ hb => simp [hb] at h

/-- A call that the breaker lets pass is let in, or returns at once. -/
theorem Move.waiting_of_call (m : Move s (.call t) s') :
    (∃ x, s'.stage t = .waiting x) ∨ ∃ answer, s'.stage t = .returned answer := by
  cases m with
  | refused | rejected => exact .inr ⟨_, Function.update_self _ _ _⟩
  | admitted => exact .inl ⟨_, Function.update_self _ _ _⟩

end

namespace Run

variable {r : Run ε α} {n m : Nat} {t : Ticket}

theorem tallied (r : Run ε α) (n : Nat) : (r.state n).Tallied := by
  induction n with
  | zero =>
    rw [r.starts]
    exact rfl
  | succ n ih => exact (r.move n).tallied ih

/-! ## Calls that make no operation -/

/-- What the breaker grants a call that comes in step `n`. -/
def granted (r : Run ε α) (n : Nat) : Option Permission :=
  ((r.state n).command.breaker.tryAcquire (r.state n).now).2

/-- In step `n` the call is let in, and makes its operation. -/
def Invokes (r : Run ε α) (n : Nat) (t : Ticket) : Prop :=
  r.event n = .call t ∧ ∃ x, (r.state (n + 1)).stage t = .waiting x

/-- A call that is over as soon as it has come makes no operation. -/
theorem never_invokes (hcall : r.event n = .call t)
    (hover : ((r.state (n + 1)).stage t).isOver = true) (m : Nat) :
    ¬ r.Invokes m t ∧ (r.state m).work t = .unstarted := by
  constructor
  · rintro ⟨hcall', x, hx⟩
    obtain rfl := call_unique hcall hcall'
    simp [hx, Stage.isOver] at hover
  · have hbefore := unstarted_work (unstarted_of_call hcall)
    have hkept := (r.move n).work_of_others (t := t) (by simp [hcall]) (by simp [hcall])
    exact never_begun hover (hkept.trans hbefore) m

theorem refused (hcall : r.event n = .call t) (h : r.granted n = none) :
    (r.state (n + 1)).command.bulkhead = (r.state n).command.bulkhead ∧
      (r.state (n + 1)).stage t = .returned (.error (.circuitOpen r.key)) := by
  have hmove := r.move n
  rw [hcall] at hmove
  obtain ⟨hbulkhead, hstage⟩ := hmove.refused_of_call h
  rw [(r.isOf n).key] at hstage
  exact ⟨hbulkhead, hstage⟩

/-! ## Calls that are owed an outcome -/

/-- A call that was let pass and has returned has made one outcome, the one of its answer. -/
theorem made_of_returned {p : Permission} {answer : Except (CommandError ε) α}
    (hcall : r.event n = .call t) (hp : r.granted n = some p) (hm : n < m)
    (h : (r.state m).stage t = .returned answer) :
    (∀ key, answer ≠ .error (.circuitOpen key)) ∧
      r.made m t =
        [(.acquire, .permission (some p)), (.record p (Outcome.ofAnswer answer), .nothing)] := by
  obtain ⟨rest, hasked⟩ := asked hcall hm
  rw [← granted, hp] at hasked
  have haccounts := r.accounts m t
  rw [h, hasked] at haccounts
  rcases haccounts.of_returned with ⟨-, hmade⟩ | ⟨hopen, p', hmade⟩
  · simp at hmade
  · -- the permission of the record is the one that was granted
    obtain ⟨hhead, -⟩ := List.cons.inj hmade
    obtain rfl : p = p' := by simpa using hhead
    exact ⟨hopen, hasked.trans hmade⟩

/-! ## Calls return -/

/-- While a call waits, its deadline comes, and past its deadline it goes on. -/
structure Attended (r : Run ε α) (t : Ticket) : Prop where
  due : ∀ n x, (r.state n).stage t = .waiting x → ∃ m, n ≤ m ∧ x.deadline ≤ (r.state m).now
  woken : ∀ n x, (r.state n).stage t = .waiting x → x.deadline ≤ (r.state n).now →
    ∃ m, n ≤ m ∧ (r.event m).caller? = some t

theorem stage_stays (hm : n ≤ m) (h : ∀ k, n ≤ k → k < m → (r.event k).caller? ≠ some t) :
    (r.state m).stage t = (r.state n).stage t := by
  induction m, hm using Nat.le_induction with
  | base => rfl
  | succ m hm ih =>
    have hbefore := ih fun k hk hkm => h k hk (by omega)
    rw [(r.move m).stage_of_others (h m hm (Nat.lt_succ_self m)), hbefore]

/-- A call that waits goes on from where it waits. -/
theorem exists_next (ha : r.Attended t) {x : Execution} (h : (r.state n).stage t = .waiting x) :
    ∃ m, n ≤ m ∧ (r.state m).stage t = .waiting x ∧ (r.event m).caller? = some t := by
  have hsome : ∃ m, n ≤ m ∧ (r.event m).caller? = some t := by
    -- a call that never went on would still wait at its deadline, and then it is woken
    by_contra hnone
    push Not at hnone
    obtain ⟨m, hm, hdue⟩ := ha.due n x h
    have hstays := stage_stays hm fun k hk _ => hnone k hk
    obtain ⟨k, hk, hcaller⟩ := ha.woken m x (hstays.trans h) hdue
    exact hnone k (hm.trans hk) hcaller
  classical
  obtain ⟨hm, hcaller⟩ := Nat.find_spec hsome
  have hfirst : ∀ k, n ≤ k → k < Nat.find hsome → (r.event k).caller? ≠ some t :=
    fun k hk hlt hcaller => Nat.find_min hsome hlt ⟨hk, hcaller⟩
  exact ⟨Nat.find hsome, hm, (stage_stays hm hfirst).trans h, hcaller⟩

theorem returns_of_running (ha : r.Attended t) (hdrop : ∀ k, r.event k ≠ .drop t)
    {p : Permission} {d : Instant} (h : (r.state n).stage t = .waiting (.running p d)) :
    ∃ m > n, ∃ answer, (r.state m).stage t = .returned answer := by
  obtain ⟨m, hm, hwaits, hcaller⟩ := exists_next ha h
  rcases (r.move m).goes_on hcaller (hdrop m) hwaits with hreturned | ⟨⟨_, _, hq⟩, -⟩
  · exact ⟨m + 1, by omega, hreturned⟩
  · cases hq

/-- A call that is attended to and not dropped returns. -/
theorem returns_of_waiting (ha : r.Attended t) (hdrop : ∀ k, r.event k ≠ .drop t) {x : Execution}
    (h : (r.state n).stage t = .waiting x) :
    ∃ m > n, ∃ answer, (r.state m).stage t = .returned answer := by
  obtain ⟨m, hm, hwaits, hcaller⟩ := exists_next ha h
  rcases (r.move m).goes_on hcaller (hdrop m) hwaits with hreturned | ⟨-, p, d, hruns⟩
  · exact ⟨m + 1, by omega, hreturned⟩
  · obtain ⟨k, hk, hreturned⟩ := returns_of_running ha hdrop hruns
    exact ⟨k, by omega, hreturned⟩

theorem returns_of_call (ha : r.Attended t) (hdrop : ∀ k, r.event k ≠ .drop t)
    (hcall : r.event n = .call t) : ∃ m > n, ∃ answer, (r.state m).stage t = .returned answer := by
  have hmove := r.move n
  rw [hcall] at hmove
  rcases hmove.waiting_of_call with ⟨x, hwaits⟩ | hreturned
  · obtain ⟨m, hm, hreturned⟩ := returns_of_waiting ha hdrop hwaits
    exact ⟨m, by omega, hreturned⟩
  · exact ⟨n + 1, Nat.lt_succ_self n, hreturned⟩

end Run

/-- Every call makes the outcomes it owes, and no others. The log has everything that was done to the
breaker. A call that is refused gets that as its answer, makes no operation and no outcome, and leaves
the bulkhead as it is. A call that was let pass returns, unless it is dropped, and has then made one
outcome, with the permission it was granted: a success if the operation came through, a failure of the
service if the operation failed on its own account, and a failure of the infrastructure otherwise. A
rejected call makes no operation. The calls that the breaker counts are those it refused and those the
bulkhead counts. -/
theorem one_outcome (r : Run ε α) (n : Nat) :
    (Breaker.new (.ofCommand r.key r.settings)).Traces (r.log n) (r.state n).command.breaker ∧
    (∀ t, r.event n = .call t → r.granted n = none →
      (r.state (n + 1)).command.bulkhead = (r.state n).command.bulkhead ∧
        (∀ m, ¬ r.Invokes m t ∧ (r.state m).work t = .unstarted) ∧
        ∀ m > n, (r.state m).stage t = .returned (.error (.circuitOpen r.key)) ∧
          r.made m t = [(.acquire, .permission none)]) ∧
    (∀ t p, r.event n = .call t → r.granted n = some p →
      (r.Attended t → (∀ m, r.event m ≠ .drop t) →
        ∃ m > n, ∃ answer, (r.state m).stage t = .returned answer) ∧
      ∀ m > n, ∀ answer, (r.state m).stage t = .returned answer →
        ∃ outcome,
          r.made m t = [(.acquire, .permission (some p)), (.record p outcome, .nothing)] ∧
          (outcome = .success ↔ ∃ a, answer = .ok a) ∧
          (outcome = .serviceFailure ↔
            ∃ e, answer = .error (.execution e) ∧ FailureKind.isInfrastructure e = false) ∧
          (outcome = .infrastructureFailure ↔
            (∃ key, answer = .error (.rejected key)) ∨
            (∃ key limit, answer = .error (.timeout key limit)) ∨
            (∃ key reason, answer = .error (.aborted key reason)) ∨
            ∃ e, answer = .error (.execution e) ∧ FailureKind.isInfrastructure e = true)) ∧
    (∀ t x, (r.state n).stage t = .waiting x → x.deadline ≤ (r.state n).now →
      ∃ e : Event ε α, e.caller? = some t ∧ e ≠ .drop t ∧
        ((r.state n).step e).isSome = true) ∧
    (∀ t key, (r.state n).stage t = .returned (.error (.rejected key)) →
      ∀ m, ¬ r.Invokes m t ∧ (r.state m).work t = .unstarted) ∧
    (r.state n).command.breaker.totalRequests =
      (r.state n).command.breaker.totalRejections + (r.state n).command.bulkhead.totalCalls := by
  refine ⟨r.traces n, fun t hcall hnone => ?_, fun t p hcall hp => ⟨fun ha hdrop => ?_, ?_⟩,
    fun t x => can_go_on, fun t key h => ?_, r.tallied n⟩
  · obtain ⟨hbulkhead, hstage⟩ := Run.refused hcall hnone
    have hover : ((r.state (n + 1)).stage t).isOver = true := by rw [hstage]; rfl
    refine ⟨hbulkhead, Run.never_invokes hcall hover, fun m hm => ?_⟩
    have hstays := (Run.stage_of_over hover hm).trans hstage
    have haccounts := r.accounts m t
    rw [hstays] at haccounts
    exact ⟨hstays, haccounts⟩
  · exact Run.returns_of_call ha hdrop hcall
  · intro m hm answer hreturned
    obtain ⟨hopen, hmade⟩ := Run.made_of_returned hcall hp hm hreturned
    exact ⟨Outcome.ofAnswer answer, hmade, Outcome.ofAnswer_eq_success,
      Outcome.ofAnswer_eq_serviceFailure, Outcome.ofAnswer_eq_infrastructureFailure hopen⟩
  · obtain ⟨m, -, hcall, hstage, -⟩ := Run.exists_call_of_rejected h
    exact Run.never_invokes hcall (by rw [hstage]; rfl)

namespace Sample

/-- One call comes through, one runs past its deadline in the slot of the first, one finds no place,
and one comes when the circuit has been opened. -/
def mixedEvents : List (Event InvocationError Unit) :=
  [.call 0, .turn 0, .call 1, .call 2, .finish 0 (.result (.ok ())), .collect 0, .turn 1, .pass 10,
    .deadline 1, .tend .forceOpen, .call 3]

def mixedRun : Run InvocationError Unit := .ofEvents "lunch" narrow mixedEvents rfl

theorem mixedRun_kept (n : Nat) : mixedRun.event n ≠ .drop 1 := by
  intro hdrop
  rcases Run.event_ofEvents "lunch" narrow mixedEvents rfl n with h | h
  · rw [← mixedRun, hdrop] at h
    simp [mixedEvents] at h
  · cases hdrop.symm.trans h

theorem mixedRun_attended : mixedRun.Attended 1 := by
  have hover : ((mixedRun.state 9).stage 1).isOver = true := rfl
  -- the call has come in step 2 and is over after step 8, at its deadline
  have hwaits {n x} (h : (mixedRun.state n).stage 1 = .waiting x) : n ≤ 8 ∧ x.deadline = 10 := by
    rcases Nat.lt_or_ge n 9 with hn | hn
    · refine ⟨by omega, ?_⟩
      interval_cases n
      case «0» | «1» | «2» => cases h
      all_goals
        obtain rfl := Stage.waiting.inj h
        rfl
    · rw [Run.stage_of_over hover hn] at h
      cases h
  constructor
  · intro n x h
    obtain ⟨hn, hx⟩ := hwaits h
    exact ⟨8, hn, Nat.le_of_eq hx⟩
  · intro n x h _
    exact ⟨8, (hwaits h).1, rfl⟩

end Sample

/-- The first call counts as a success; the second one returns; the third one makes no operation; the
fourth one makes no outcome either. -/
theorem one_outcome_mixedRun :
    (Sample.mixedRun.granted 0 = some .normal ∧
      (Sample.mixedRun.state 6).stage 0 = .returned (.ok ()) ∧
      Sample.mixedRun.made 6 0 =
        [(.acquire, .permission (some .normal)), (.record .normal .success, .nothing)]) ∧
    (Sample.mixedRun.granted 2 = some .normal ∧ Sample.mixedRun.Attended 1 ∧
      ∃ m > 2, ∃ answer, (Sample.mixedRun.state m).stage 1 = .returned answer) ∧
    ((Sample.mixedRun.state 4).stage 2 = .returned (.error (.rejected "lunch")) ∧
      ∀ m, ¬ Sample.mixedRun.Invokes m 2) ∧
    Sample.mixedRun.granted 10 = none ∧
      Sample.mixedRun.made 11 3 = [(.acquire, .permission none)] := by
  obtain ⟨-, -, hfirst, -⟩ := one_outcome Sample.mixedRun 0
  obtain ⟨-, -, hsecond, -⟩ := one_outcome Sample.mixedRun 2
  obtain ⟨-, -, -, -, hthird, -⟩ := one_outcome Sample.mixedRun 4
  obtain ⟨-, hfourth, -⟩ := one_outcome Sample.mixedRun 10
  obtain ⟨outcome, hmade, hsuccess, -⟩ := (hfirst 0 .normal rfl rfl).2 6 (by decide) (.ok ()) rfl
  obtain rfl := hsuccess.mpr ⟨(), rfl⟩
  have hreturns :=
    (hsecond 1 .normal rfl rfl).1 Sample.mixedRun_attended Sample.mixedRun_kept
  have hnever := hthird 2 "lunch" rfl
  have hrefused := (hfourth 3 rfl rfl).2.2 11 (by decide)
  exact ⟨⟨rfl, rfl, hmade⟩, ⟨rfl, Sample.mixedRun_attended, hreturns⟩,
    ⟨rfl, fun m => (hnever m).1⟩, rfl, hrefused.2⟩

end SharedCommand

end ServiceBinding
