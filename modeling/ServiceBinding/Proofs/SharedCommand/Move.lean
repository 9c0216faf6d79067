import ServiceBinding.Proofs.Bulkhead.Occupied
import ServiceBinding.Proofs.SharedCommand.Run

/-!
# What an event can do to a shared command

`Move` lists it, with one rule for each way an event can come out: what it has found, and the command
and the calls it leaves. `step_move` says that nothing else happens; what is known of a step of a run
is derived from it, without opening the pieces of an execution again.
-/

namespace ServiceBinding

/-! ## Pieces of an execution -/

section

variable {ε α : Type} [FailureKind ε]

/-- How the end of an operation counts. -/
def Ending.outcome : Ending ε α → Outcome
  | .result r => Outcome.ofResult r
  | .broken _ => .infrastructureFailure

/-- What the end of an operation is to the caller. -/
def Ending.answer (key : String) : Ending ε α → Except (CommandError ε) α
  | .result r => r.mapError CommandError.execution
  | .broken reason => .error (.aborted key reason)

theorem Command.conclude_eq (c : Command) (now : Instant) (x : Execution) (e : Ending ε α) :
    c.conclude now x e = (c.record now x.permission e.outcome, e.answer c.key) := by
  cases e <;> rfl

end

namespace SharedCommand

variable {ε α : Type} [FailureKind ε]

/-! ## Moves -/

/-- What an event can make of a command and its calls. -/
inductive Move (s : SharedCommand ε α) : Event ε α → SharedCommand ε α → Prop
  | pass (d : Span) : Move s (.pass d) { s with now := s.now + d }
  | refused {t b} (hs : s.stage t = .unstarted)
      (hb : s.command.breaker.tryAcquire s.now = (b, none)) :
      Move s (.call t)
        { s with
          command := { s.command with breaker := b }
          stage := Function.update s.stage t (.returned (.error (.circuitOpen s.command.key))) }
  | rejected {t b p} (hs : s.stage t = .unstarted)
      (hb : s.command.breaker.tryAcquire s.now = (b, some p))
      (hfull : ¬ s.command.bulkhead.held < s.command.bulkhead.coreSize + s.command.bulkhead.queueSize) :
      Move s (.call t)
        { s with
          command :=
            { s.command with
              breaker := b.record s.now p .infrastructureFailure
              bulkhead := s.command.bulkhead.tryEnter.1 }
          stage := Function.update s.stage t (.returned (.error (.rejected s.command.key))) }
  | admitted {t b p} (hs : s.stage t = .unstarted)
      (hb : s.command.breaker.tryAcquire s.now = (b, some p))
      (hroom : s.command.bulkhead.held < s.command.bulkhead.coreSize + s.command.bulkhead.queueSize) :
      Move s (.call t)
        { s with
          command :=
            { s.command with
              breaker := b
              bulkhead := s.command.bulkhead.tryEnter.1.lineUp t }
          stage := Function.update s.stage t
            (.waiting (.queued p (s.now + s.command.settings.timeout))) }
  | started {t p d} (hs : s.stage t = .waiting (.queued p d))
      (hturn : t ∈ s.command.bulkhead.line.take s.command.bulkhead.coreSize) :
      Move s (.turn t)
        { s with
          command := { s.command with bulkhead := s.command.bulkhead.start }
          stage := Function.update s.stage t (.waiting (.running p d))
          work := Function.update s.work t .running }
  | finished {t e} (hw : s.work t = .running) :
      Move s (.finish t e)
        { s with
          command := { s.command with bulkhead := s.command.bulkhead.finish t }
          work := Function.update s.work t (.ended e) }
  | collected {t p d e} (hs : s.stage t = .waiting (.running p d)) (hw : s.work t = .ended e) :
      Move s (.collect t)
        { s with
          command := s.command.record s.now p e.outcome
          stage := Function.update s.stage t (.returned (e.answer s.command.key)) }
  /-- A call gives up in line, and its place with it. -/
  | expiredInLine {t p d} (hs : s.stage t = .waiting (.queued p d)) (hd : d ≤ s.now)
      (hr : s.isReady t (.queued p d) = false) :
      Move s (.deadline t)
        { s with
          command :=
            ({ s.command with bulkhead := s.command.bulkhead.giveUp t } : Command).record s.now p
              .infrastructureFailure
          stage := Function.update s.stage t
            (.returned (.error (.timeout s.command.key s.command.settings.timeout))) }
  | expired {t p d} (hs : s.stage t = .waiting (.running p d)) (hd : d ≤ s.now)
      (hr : s.isReady t (.running p d) = false) :
      Move s (.deadline t)
        { s with
          command := s.command.record s.now p .infrastructureFailure
          stage := Function.update s.stage t
            (.returned (.error (.timeout s.command.key s.command.settings.timeout))) }
  | droppedInLine {t p d} (hs : s.stage t = .waiting (.queued p d)) :
      Move s (.drop t)
        { s with
          command := { s.command with bulkhead := s.command.bulkhead.giveUp t }
          stage := Function.update s.stage t .dropped }
  | dropped {t p d} (hs : s.stage t = .waiting (.running p d)) :
      Move s (.drop t) { s with stage := Function.update s.stage t .dropped }
  | tended {o} (ho : o.isOfCall = false) :
      Move s (.tend o)
        { s with
          command := { s.command with breaker := (s.command.breaker.perform s.now o).1 } }

theorem call_move {s s' : SharedCommand ε α} {t : Ticket} (h : s.step (.call t) = some s') :
    Move s (.call t) s' := by
  simp only [step] at h
  split at h
  · rename_i hs
    obtain rfl := Option.some.inj h
    cases hb : s.command.breaker.tryAcquire s.now with
    | mk b granted =>
      cases granted with
      | none =>
        simp only [Command.enter, hb, entered]
        exact .refused hs hb
      | some p =>
        by_cases hroom :
            s.command.bulkhead.held < s.command.bulkhead.coreSize + s.command.bulkhead.queueSize
        · have henter := Bulkhead.tryEnter_of_room hroom
          have hmove := Move.admitted (α := α) hs hb hroom
          simpa only [Command.enter, hb, henter, entered] using hmove
        · have henter := Bulkhead.tryEnter_of_full hroom
          have hmove := Move.rejected (α := α) hs hb hroom
          simpa only [Command.enter, hb, henter, entered, Command.record] using hmove
  · cases h

/-- Whatever happens is one of the moves. -/
theorem step_move {s s' : SharedCommand ε α} {e : Event ε α} (h : s.step e = some s') :
    Move s e s' := by
  cases e with
  | pass d =>
    obtain rfl := Option.some.inj h
    exact .pass d
  | call t => exact call_move h
  | turn t =>
    simp only [step] at h
    split at h
    · rename_i p d hs
      split at h
      · rename_i hturn
        obtain rfl := Option.some.inj h
        exact .started hs (by simpa [Command.canStart, Bulkhead.canStart] using hturn)
      · cases h
    · cases h
  | finish t e =>
    simp only [step] at h
    split at h
    · rename_i hw
      obtain rfl := Option.some.inj h
      exact .finished hw
    · cases h
  | collect t =>
    simp only [step] at h
    split at h
    · rename_i p d e hs hw
      obtain rfl := Option.some.inj h
      rw [Command.conclude_eq]
      exact .collected hs hw
    · cases h
  | deadline t =>
    simp only [step] at h
    split at h
    · rename_i x hs
      split at h
      · rename_i hdue
        obtain rfl := Option.some.inj h
        cases x with
        | queued p d => exact .expiredInLine hs hdue.1 hdue.2
        | running p d => exact .expired hs hdue.1 hdue.2
      · cases h
    · cases h
  | drop t =>
    simp only [step] at h
    split at h
    · rename_i x hs
      obtain rfl := Option.some.inj h
      cases x with
      | queued p d => exact .droppedInLine hs
      | running p d => exact .dropped hs
    · cases h
  | tend o =>
    simp only [step] at h
    split at h
    · cases h
    · rename_i ho
      obtain rfl := Option.some.inj h
      exact .tended (by simpa using ho)

/-! ## One call among the others -/

/-- The call that goes on, if one does. -/
def Event.caller? : Event ε α → Option Ticket
  | .call t | .turn t | .collect t | .deadline t | .drop t => some t
  | .pass _ | .finish _ _ | .tend _ => none

/-- Whether nothing more comes of a call. -/
def Stage.isOver : Stage ε α → Bool
  | .returned _ | .dropped => true
  | .unstarted | .waiting _ => false

variable {s s' : SharedCommand ε α} {e : Event ε α} {t : Ticket}

theorem Move.stage_of_others (m : Move s e s') (h : e.caller? ≠ some t) :
    s'.stage t = s.stage t := by
  cases m with
  | pass | finished | tended => rfl
  | _ =>
    have hne := Ne.symm (by simpa [Event.caller?] using h)
    exact Function.update_of_ne hne _ _

/-- A call that goes on is not over. -/
theorem Move.not_over (m : Move s e s') (h : e.caller? = some t) : (s.stage t).isOver = false := by
  cases m with
  | pass | finished | tended => cases h
  | _ hs =>
    obtain rfl := Option.some.inj h
    simp [hs, Stage.isOver]

theorem Move.stage_of_over (m : Move s e s') (h : (s.stage t).isOver = true) :
    s'.stage t = s.stage t := by
  refine m.stage_of_others fun hcaller => ?_
  simp [m.not_over hcaller] at h

theorem Move.unstarted_of_call (m : Move s (.call t) s') : s.stage t = .unstarted := by
  cases m with
  | refused hs | rejected hs | admitted hs => exact hs

theorem Move.begun (m : Move s e s') (h : e.caller? = some t) : s'.stage t ≠ .unstarted := by
  cases m with
  | pass | finished | tended => cases h
  | _ =>
    obtain rfl := Option.some.inj h
    simp

/-- A call is rejected when it comes and finds every place taken, and not otherwise. -/
theorem Move.rejected_cases {key : String} (m : Move s e s')
    (h : s'.stage t = .returned (.error (.rejected key))) :
    s.stage t = .returned (.error (.rejected key)) ∨
      (e = .call t ∧
        ¬ s.command.bulkhead.held < s.command.bulkhead.coreSize + s.command.bulkhead.queueSize) := by
  by_cases hcaller : e.caller? = some t
  · cases m with
    | pass | finished | tended => cases hcaller
    | rejected hs hb hfull =>
      obtain rfl := Option.some.inj hcaller
      exact .inr ⟨rfl, hfull⟩
    | @collected _ _ _ ending hr hw =>
      obtain rfl := Option.some.inj hcaller
      rcases ending with (_ | _) | _ <;> simp [Ending.answer, Except.mapError] at h
    | _ =>
      obtain rfl := Option.some.inj hcaller
      simp at h
  · exact .inl (m.stage_of_others hcaller ▸ h)

/-- What an event can make of the operation of a call. -/
theorem Move.work_cases (m : Move s e s') (t : Ticket) :
    s'.work t = s.work t ∨
      (e = .turn t ∧ (∃ p d, s.stage t = .waiting (.queued p d)) ∧ s'.work t = .running) ∨
      ∃ ending, e = .finish t ending ∧ s.work t = .running ∧ s'.work t = .ended ending := by
  cases m with
  | @started u p d hs hturn =>
    by_cases hu : t = u
    · subst hu
      exact .inr (.inl ⟨rfl, ⟨p, d, hs⟩, by simp⟩)
    · exact .inl (by simp [hu])
  | @finished u ending hw =>
    by_cases hu : t = u
    · subst hu
      exact .inr (.inr ⟨ending, rfl, hw, by simp⟩)
    · exact .inl (by simp [hu])
  | _ => exact .inl rfl

theorem Move.work_of_others (m : Move s e s') (hturn : e ≠ .turn t)
    (hfinish : ∀ ending, e ≠ .finish t ending) : s'.work t = s.work t := by
  rcases m.work_cases t with hw | ⟨he, -, -⟩ | ⟨ending, he, -, -⟩
  · exact hw
  · exact absurd he hturn
  · exact absurd he (hfinish ending)

/-- An operation that has not begun had not begun before. -/
theorem Move.unstarted_before (m : Move s e s') (h : s'.work t = .unstarted) :
    s.work t = .unstarted := by
  rcases m.work_cases t with hw | ⟨-, -, hw⟩ | ⟨_, -, -, hw⟩
  · rwa [← hw]
  · simp [hw] at h
  · simp [hw] at h

end SharedCommand

end ServiceBinding
