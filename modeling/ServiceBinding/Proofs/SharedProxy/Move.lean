import ServiceBinding.Proofs.SharedProxy.Run

/-!
# What a piece of a task can do

`Move` lists it, by the stages before and after the piece: with one rule for each way a piece can
come out, the guards it has passed, and the proxy it leaves. Everything known of a step of a run is
derived from `advance_move`, without opening the pieces again.
-/

namespace ServiceBinding

namespace Proxy

/-! ## Connections -/

/-- Unbound for a cause that no attempt can mend. -/
def Fatal (p : Proxy) : Prop := ∃ reason message e, p.connection = .unbound reason message (some e)

/-- Unbound for a cause that an attempt may mend. -/
def Mendable (p : Proxy) : Prop := ∃ reason message, p.connection = .unbound reason message none

theorem isBound_iff {p : Proxy} : p.isBound = true ↔ ∃ b, p.connection = .bound b := by
  cases h : p.connection <;> simp [isBound, h]

theorem isBound_congr {p p' : Proxy} (h : p'.connection = p.connection) : p'.isBound = p.isBound := by
  simp only [isBound, h]

theorem Mendable.isBound {p : Proxy} (h : p.Mendable) : p.isBound = false := by
  obtain ⟨reason, message, h⟩ := h
  simp [Proxy.isBound, h]

theorem Fatal.isBound {p : Proxy} (h : p.Fatal) : p.isBound = false := by
  obtain ⟨reason, message, e, h⟩ := h
  simp [Proxy.isBound, h]

theorem Mendable.not_fatal {p : Proxy} (h : p.Mendable) : ¬ p.Fatal := by
  obtain ⟨reason, message, h⟩ := h
  simp [Fatal, h]

theorem Mendable.congr {p p' : Proxy} (h : p'.connection = p.connection) (hm : p.Mendable) :
    p'.Mendable := by
  obtain ⟨reason, message, hc⟩ := hm
  exact ⟨reason, message, h.trans hc⟩

theorem Fatal.congr {p p' : Proxy} (h : p'.connection = p.connection) (hf : p.Fatal) :
    p'.Fatal := by
  obtain ⟨reason, message, e, hc⟩ := hf
  exact ⟨reason, message, e, h.trans hc⟩

theorem mendable_of_not_fatal {p : Proxy} (hu : p.isBound = false) (hf : ¬ p.Fatal) :
    p.Mendable := by
  cases h : p.connection with
  | bound b => simp [isBound, h] at hu
  | unbound reason message fatal =>
    cases fatal with
    | none => exact ⟨reason, message, h⟩
    | some e => exact absurd ⟨reason, message, e, h⟩ hf

theorem current_of_bound {p : Proxy} {b : Bound} (h : p.connection = .bound b) :
    p.current = .ok b := by
  simp [current, h]

theorem current_of_fatal {p : Proxy} {reason : UnavailableReason} {message : String}
    {e : BindError} (h : p.connection = .unbound reason message (some e)) :
    p.current = .error (.binding e) := by
  simp [current, h]

/-! ## Fields after each change -/

@[simp] theorem lineUp_connection (p : Proxy) (t : Ticket) :
    (p.lineUp t).connection = p.connection := rfl

@[simp] theorem lineUp_generation (p : Proxy) (t : Ticket) :
    (p.lineUp t).generation = p.generation := rfl

@[simp] theorem lineUp_line (p : Proxy) (t : Ticket) : (p.lineUp t).line = p.line ++ [t] := rfl

@[simp] theorem leaveLine_connection (p : Proxy) (t : Ticket) :
    (p.leaveLine t).connection = p.connection := rfl

@[simp] theorem leaveLine_generation (p : Proxy) (t : Ticket) :
    (p.leaveLine t).generation = p.generation := rfl

@[simp] theorem leaveLine_line (p : Proxy) (t : Ticket) :
    (p.leaveLine t).line = p.line.erase t := rfl

@[simp] theorem apply_generation (p : Proxy) (now : Instant)
    (r : Except BindFailure (Binding × Option ApiDefinition)) :
    (p.apply now r).1.generation = p.generation + 1 := by
  unfold apply
  split <;> rfl

@[simp] theorem apply_line (p : Proxy) (now : Instant)
    (r : Except BindFailure (Binding × Option ApiDefinition)) :
    (p.apply now r).1.line = p.line := by
  unfold apply
  split <;> rfl

/-- What an attempt makes of the connection; a binding gets the number of the generation it ends. -/
theorem apply_connection (p : Proxy) (now : Instant)
    (r : Except BindFailure (Binding × Option ApiDefinition)) :
    (p.apply now r).1.connection =
      match r with
      | .ok (binding, versioning) => .bound ⟨p.generation, binding, versioning⟩
      | .error (.fatal e) => .unbound .notBound e.message (some e)
      | .error (.transient reason message) => .unbound reason message none := by
  unfold apply
  split <;> rfl

/-- Who makes an attempt gets the binding that the proxy then has. -/
theorem apply_connection_of_ok {p : Proxy} {now : Instant}
    {r : Except BindFailure (Binding × Option ApiDefinition)} {b : Bound}
    (h : (p.apply now r).2 = .ok b) : (p.apply now r).1.connection = .bound b := by
  unfold apply at h ⊢
  split at h <;> simp_all

theorem number_of_apply_bound {p : Proxy} {now : Instant}
    {r : Except BindFailure (Binding × Option ApiDefinition)} {b : Bound}
    (h : (p.apply now r).1.connection = .bound b) : b.number = p.generation := by
  rw [apply_connection] at h
  split at h <;> simp_all
  rw [← h]

@[simp] theorem disconnect_generation (p : Proxy) (b : Bound) (reason : UnavailableReason)
    (message : String) : (p.disconnect b reason message).generation = p.generation := by
  unfold disconnect
  repeat' split
  all_goals rfl

@[simp] theorem disconnect_line (p : Proxy) (b : Bound) (reason : UnavailableReason)
    (message : String) : (p.disconnect b reason message).line = p.line := by
  unfold disconnect
  repeat' split
  all_goals rfl

/-- The binding in use is taken down. -/
theorem disconnect_eq {p : Proxy} {b : Bound} (h : p.connection = .bound b) (reason : UnavailableReason)
    (message : String) :
    p.disconnect b reason message =
      { p with connection := .unbound reason message none, retryAfter := none, failures := 0 } := by
  simp [disconnect, h]

/-- A binding is taken down only while it is the current one. -/
theorem disconnect_connection (p : Proxy) (b : Bound) (reason : UnavailableReason)
    (message : String) :
    (p.disconnect b reason message).connection = p.connection ∨
      ∃ c, p.connection = .bound c ∧ c.number = b.number ∧
        (p.disconnect b reason message).connection = .unbound reason message none := by
  unfold disconnect
  split
  · rename_i c hc
    split
    · rename_i hn
      exact .inr ⟨c, hc, hn, rfl⟩
    · exact .inl rfl
  · exact .inl rfl

/-- An error of a call that takes the call's binding down: a signal, or the last of so many failures
to reach the provider. -/
inductive TakesDown (p : Proxy) (e : InvocationError) : Prop
  | signal (h : p.settings.signals.includes e = true)
  | unreachable {reason : UnavailableReason} {limit : Nat} (hr : e.reason? = some reason)
      (hu : reason.isUnreachability = true) (hl : p.settings.invalidateAfter = some limit)
      (hf : limit ≤ p.failures + 1)

/-- The result of a call changes neither the line nor the generation. -/
theorem observe_frame (p : Proxy) (b : Bound) (result : Except InvocationError Json.Value) :
    (p.observe b result).line = p.line ∧ (p.observe b result).generation = p.generation := by
  cases result with
  | ok v => exact ⟨rfl, rfl⟩
  | error e =>
    simp only [observe]
    repeat' split
    all_goals simp

@[simp] theorem observe_generation (p : Proxy) (b : Bound)
    (result : Except InvocationError Json.Value) :
    (p.observe b result).generation = p.generation := (p.observe_frame b result).2

@[simp] theorem observe_line (p : Proxy) (b : Bound)
    (result : Except InvocationError Json.Value) : (p.observe b result).line = p.line :=
  (p.observe_frame b result).1

theorem observe_connection (p : Proxy) (b : Bound) (result : Except InvocationError Json.Value) :
    (p.observe b result).connection = p.connection ∨
      ∃ e c reason message, result = .error e ∧ p.TakesDown e ∧ p.connection = .bound c ∧
        c.number = b.number ∧ (p.observe b result).connection = .unbound reason message none := by
  cases result with
  | ok v => exact .inl rfl
  | error e =>
    simp only [observe]
    split
    · rename_i hs
      rcases p.disconnect_connection b (e.reason?.getD .targetGone) e.message with
        h | ⟨c, hc, hn, h⟩
      · exact .inl h
      · exact .inr ⟨e, c, _, _, rfl, .signal hs, hc, hn, h⟩
    · split
      · exact .inl rfl
      · rename_i reason hr
        split
        · rename_i hu
          split
          · rename_i limit hl
            split
            · rename_i hf
              rcases disconnect_connection { p with failures := p.failures + 1 } b reason
                  (toString (p.failures + 1) ++ " consecutive failures, last: " ++ e.message) with
                h | ⟨c, hc, hn, h⟩
              · exact .inl h
              · exact .inr ⟨e, c, _, _, rfl, .unreachable hr hu hl hf, hc, hn, h⟩
            · exact .inl rfl
          · exact .inl rfl
        · exact .inl rfl

/-! ### What the proxy is for never changes -/

@[simp] theorem apply_descriptor (p : Proxy) (now : Instant)
    (r : Except BindFailure (Binding × Option ApiDefinition)) :
    (p.apply now r).1.descriptor = p.descriptor := by
  unfold apply
  split <;> rfl

@[simp] theorem disconnect_descriptor (p : Proxy) (b : Bound) (reason : UnavailableReason)
    (message : String) : (p.disconnect b reason message).descriptor = p.descriptor := by
  unfold disconnect
  repeat' split
  all_goals rfl

@[simp] theorem observe_descriptor (p : Proxy) (b : Bound)
    (result : Except InvocationError Json.Value) :
    (p.observe b result).descriptor = p.descriptor := by
  cases result with
  | ok v => rfl
  | error e =>
    simp only [observe]
    repeat' split
    all_goals simp

/-! ## Stages -/

namespace Stage

/-- The task waits for its turn to bind or has it. -/
def isInLine : Stage → Bool
  | .rebinding .. => true
  | .rechecking (.queued ..) => true
  | .rechecking (.binding ..) => true
  | _ => false

/-- A caller has its turn and makes an attempt. -/
def isCallAttempt : Stage → Bool
  | .rebinding _ (.lookingUp _) => true
  | .rebinding _ (.binding ..) => true
  | _ => false

/-- The task has its turn and makes an attempt. -/
def isAttempt : Stage → Bool
  | .rebinding _ (.lookingUp _) => true
  | .rebinding _ (.binding ..) => true
  | .rechecking (.binding ..) => true
  | _ => false

/-- A caller waits for the registry. -/
def isCallLookup : Stage → Bool
  | .rebinding _ (.lookingUp _) => true
  | _ => false

/-- The task waits for the registry. -/
def isLookup : Stage → Bool
  | .rebinding _ (.lookingUp _) => true
  | .rechecking (.lookingUp ..) => true
  | _ => false

end Stage

/-! ## Moves -/

/-- What becomes of the proxy and the stage of a task when a signal lets it go on. -/
inductive Move (p : Proxy) (now : Instant) (t : Ticket) : Stage → Signal → Proxy × Stage → Prop
  /-- A caller needs no attempt, or may make none. -/
  | served {q} (h : p.Mendable → p.isThrottled now = true) :
      Move p now t .unstarted (.request q) (p, q.resume p.current)
  | linedUp {q} (hm : p.Mendable) (ht : p.isThrottled now = false) :
      Move p now t .unstarted (.request q)
        (p.lineUp t, .rebinding q (.queued p.generation (now + p.settings.rebindTimeout)))
  /-- Another attempt was applied while the caller waited, or there is a binding. -/
  | overtaken {q observed deadline cs} (ht : p.hasTurn t = true)
      (h : p.generation = observed → p.isBound = true) :
      Move p now t (.rebinding q (.queued observed deadline)) (.turn cs)
        (p.leaveLine t, q.resume p.current)
  | lookedUp {q deadline cs} (ht : p.hasTurn t = true) (hu : p.isBound = false) :
      Move p now t (.rebinding q (.queued p.generation deadline)) (.turn cs)
        ({ p with lookups := p.lookups + 1 },
          .rebinding q (.lookingUp (now + p.settings.rebindTimeout)))
  | planned {q deadline cs e c versioning deadline'} :
      Move p now t (.rebinding q (.lookingUp deadline)) (.registry cs (.ok (some e)))
        (p, .rebinding q (.binding c e.properties versioning deadline'))
  | concluded {q position signal r} (ha : (Stage.rebinding q position).isCallAttempt = true) :
      Move p now t (.rebinding q position) signal
        ((p.apply now r).1.leaveLine t, q.resume (p.apply now r).2)
  | gaveUp {q observed deadline} (hd : deadline ≤ now) :
      Move p now t (.rebinding q (.queued observed deadline)) .deadline
        (p.leaveLine t, q.resume (.error
          (p.unavailable .rebindTimeout "timed out waiting for an in-flight rebind")))
  | replied {site read b result} :
      Move p now t (.calling site read b) (.command result)
        ((p.concludeCall b result).1, .ended (some (handOver site read (p.concludeCall b result).2)))
  | recheckRefused (hf : p.Fatal) : Move p now t .unstarted .recheck (p, .ended none)
  | recheckLookedUp (hf : ¬ p.Fatal) :
      Move p now t .unstarted .recheck
        ({ p with lookups := p.lookups + 1 },
          .rechecking (.lookingUp p.generation p.connection (now + p.settings.rebindTimeout)))
  /-- The registry did not answer, or its answer asks for nothing. -/
  | recheckEnded {observed seen deadline signal} :
      Move p now t (.rechecking (.lookingUp observed seen deadline)) signal (p, .ended none)
  | recheckDisconnected {observed b deadline cs} :
      Move p now t (.rechecking (.lookingUp observed (.bound b) deadline)) (.registry cs (.ok none))
        (p.disconnect b .noLiveProvider "provider no longer registered", .ended none)
  | recheckLinedUp {observed seen deadline cs e} :
      Move p now t (.rechecking (.lookingUp observed seen deadline)) (.registry cs (.ok (some e)))
        (p.lineUp t, .rechecking (.queued observed e.properties))
  | recheckOvertaken {observed properties cs} (ht : p.hasTurn t = true)
      (hg : p.generation ≠ observed) :
      Move p now t (.rechecking (.queued observed properties)) (.turn cs) (p.leaveLine t, .ended none)
  | recheckPlanned {properties cs c versioning deadline} (ht : p.hasTurn t = true) :
      Move p now t (.rechecking (.queued p.generation properties)) (.turn cs)
        (p, .rechecking (.binding c properties versioning deadline))
  /-- A failed attempt is applied only if there is no binding. -/
  | recheckConcluded {position signal r}
      (ha : (Stage.rechecking position).isAttempt = true ∨
        p.hasTurn t = true ∧ ∃ properties, position = .queued p.generation properties)
      (hr : ∀ failure, r = .error failure → p.isBound = false) :
      Move p now t (.rechecking position) signal ((p.apply now r).1.leaveLine t, .ended none)
  | recheckKept {position signal}
      (ha : (Stage.rechecking position).isAttempt = true ∨
        p.hasTurn t = true ∧ ∃ properties, position = .queued p.generation properties)
      (hb : p.isBound = true) :
      Move p now t (.rechecking position) signal (p.leaveLine t, .ended none)
  | callDropped {site read b} : Move p now t (.calling site read b) .drop (p, .ended none)
  | dropped {stage} (hs : stage ≠ .unstarted) :
      Move p now t stage .drop (p.leaveLine t, .ended none)

/-! ### The pieces -/

section Pieces

variable (p : Proxy) (now : Instant) (t : Ticket)

theorem enter_move (q : Request) :
    Move p now t .unstarted (.request q) (q.follow (p.enter now t)) := by
  unfold enter
  split
  · rename_i b hb
    rw [← current_of_bound hb]
    exact .served fun ⟨_, _, hm⟩ => by simp [hb] at hm
  · rename_i reason message e hf
    rw [← current_of_fatal hf]
    exact .served fun ⟨_, _, hm⟩ => by simp [hf] at hm
  · rename_i reason message hm
    split
    · rename_i ht
      exact .served fun _ => ht
    · rename_i ht
      exact .linedUp ⟨reason, message, hm⟩ (by simpa using ht)

theorem takeTurn_move (q : Request) (observed : Nat) (deadline : Instant) (cs : Components)
    (ht : p.hasTurn t = true) :
    Move p now t (.rebinding q (.queued observed deadline)) (.turn cs)
      (q.follow (p.takeTurn now t observed)) := by
  unfold takeTurn
  split
  · rename_i hg
    exact .overtaken ht fun h => absurd h hg
  · rename_i hg
    obtain rfl : p.generation = observed := by simpa using hg
    split
    · rename_i b hb
      rw [← current_of_bound hb]
      exact .overtaken ht fun _ => isBound_iff.mpr ⟨b, hb⟩
    · rename_i hu
      exact .lookedUp ht (by simp [isBound, hu])

theorem concludeRebind_move (q : Request) (position : Rebind) (signal : Signal)
    (r : Except BindFailure (Binding × Option ApiDefinition))
    (ha : (Stage.rebinding q position).isCallAttempt = true) :
    Move p now t (.rebinding q position) signal (q.follow (p.concludeRebind now t r)) :=
  .concluded ha

theorem lookedUp_move (q : Request) (deadline : Instant) (cs : Components)
    (answer : Except RegistryError (Option Entry)) :
    Move p now t (.rebinding q (.lookingUp deadline)) (.registry cs answer)
      (q.follow (p.lookedUp now t cs answer)) := by
  unfold lookedUp
  split
  · exact p.concludeRebind_move now t _ _ _ _ rfl
  · rename_i e he
    split
    · exact p.concludeRebind_move now t _ _ _ _ rfl
    · obtain rfl : answer = .ok (some e) := by
        unfold foundEntry at he
        split at he <;> simp_all
      exact .planned

theorem bindEnded_move (q : Request) (c : Component) (properties : Properties)
    (versioning : Option ApiDefinition) (deadline : Instant) (answer : Except BindError Binding) :
    Move p now t (.rebinding q (.binding c properties versioning deadline)) (.component answer)
      (q.follow (p.bindEnded now t versioning answer)) := by
  unfold bindEnded
  split <;> exact p.concludeRebind_move now t _ _ _ _ rfl

theorem timedOut_move (q : Request) (position : Rebind) (hd : position.deadline ≤ now) :
    Move p now t (.rebinding q position) .deadline (q.follow (p.timedOut now t position)) := by
  cases position with
  | queued observed deadline => exact .gaveUp hd
  | lookingUp deadline =>
    exact p.concludeRebind_move now t q (.lookingUp deadline) .deadline (.error .lookupTimeout) rfl
  | binding c properties versioning deadline =>
    exact p.concludeRebind_move now t q (.binding c properties versioning deadline) .deadline
      (.error .bindTimeout) rfl

theorem beginRecheck_move :
    Move p now t .unstarted .recheck (followRecheck (p.beginRecheck now)) := by
  unfold beginRecheck
  split
  · rename_i reason message e hf
    exact .recheckRefused ⟨reason, message, e, hf⟩
  · rename_i hf
    exact .recheckLookedUp fun ⟨reason, message, e, h⟩ => hf reason message e h

theorem recheckLookedUp_move (observed : Nat) (seen : Connection) (deadline : Instant)
    (cs : Components) (answer : Except RegistryError (Option Entry)) :
    Move p now t (.rechecking (.lookingUp observed seen deadline)) (.registry cs answer)
      (followRecheck (p.recheckLookedUp t observed seen answer)) := by
  unfold recheckLookedUp
  split
  · exact .recheckEnded
  · exact .recheckDisconnected
  · exact .recheckEnded
  · split
    · exact .recheckEnded
    · exact .recheckLinedUp
  · exact .recheckLinedUp

theorem concludeRecheck_move {position : Recheck} {signal : Signal}
    (ha : (Stage.rechecking position).isAttempt = true ∨
      p.hasTurn t = true ∧ ∃ properties, position = .queued p.generation properties)
    (r : Except BindFailure (Binding × Option ApiDefinition)) :
    Move p now t (.rechecking position) signal (followRecheck (p.concludeRecheck now t r)) := by
  unfold concludeRecheck
  split
  · rename_i b hb
    exact .recheckKept ha (isBound_iff.mpr ⟨b, hb⟩)
  · rename_i hr
    refine .recheckConcluded ha fun failure he => ?_
    cases hc : p.connection with
    | bound b => exact absurd hc (hr failure b he)
    | unbound reason message fatal => simp [isBound, hc]

theorem recheckTurn_move (observed : Nat) (properties : Properties) (cs : Components)
    (ht : p.hasTurn t = true) :
    Move p now t (.rechecking (.queued observed properties)) (.turn cs)
      (followRecheck (p.recheckTurn now t cs observed properties)) := by
  unfold recheckTurn
  split
  · rename_i hg
    exact .recheckOvertaken ht hg
  · rename_i hg
    obtain rfl : p.generation = observed := by simpa using hg
    split
    · exact p.concludeRecheck_move now t (.inr ⟨ht, properties, rfl⟩) _
    · exact .recheckPlanned ht

theorem recheckBindEnded_move (c : Component) (properties : Properties)
    (versioning : Option ApiDefinition) (deadline : Instant) (answer : Except BindError Binding) :
    Move p now t (.rechecking (.binding c properties versioning deadline)) (.component answer)
      (followRecheck (p.recheckBindEnded now t versioning answer)) := by
  unfold recheckBindEnded
  split <;> exact p.concludeRecheck_move now t (.inl rfl) _

theorem recheckTimedOut_move (position : Recheck) (hd : position.deadline?.isSome = true) :
    Move p now t (.rechecking position) .deadline
      (followRecheck (p.recheckTimedOut now t position)) := by
  cases position with
  | lookingUp observed seen deadline => exact .recheckEnded
  | queued observed properties => simp [Recheck.deadline?] at hd
  | binding c properties versioning deadline => exact p.concludeRecheck_move now t (.inl rfl) _

end Pieces

/-- Whatever a task does is one of the moves. -/
theorem advance_move {p : Proxy} {now : Instant} {t : Ticket} {stage : Stage} {signal : Signal}
    {next : Proxy × Stage} (h : p.advance now t stage signal = some next) :
    Move p now t stage signal next := by
  cases stage with
  | unstarted =>
    cases signal <;> simp only [advance, Option.some.injEq, reduceCtorEq] at h <;> subst h
    · exact p.enter_move now t _
    · exact p.beginRecheck_move now t
  | rebinding q position =>
    simp only [advance] at h
    unfold advanceRebind at h
    split at h
    · split at h
      · obtain rfl := Option.some.inj h
        exact p.takeTurn_move now t q _ _ _ ‹_›
      · cases h
    · obtain rfl := Option.some.inj h
      exact p.lookedUp_move now t q _ _ _
    · obtain rfl := Option.some.inj h
      exact p.bindEnded_move now t q _ _ _ _ _
    · split at h
      · obtain rfl := Option.some.inj h
        exact p.timedOut_move now t q _ ‹_›
      · cases h
    · obtain rfl := Option.some.inj h
      exact .dropped nofun
    · cases h
  | calling site read b =>
    cases signal <;> simp only [advance, Option.some.injEq, reduceCtorEq] at h <;> subst h
    · exact .replied
    · exact .callDropped
  | rechecking position =>
    simp only [advance] at h
    unfold advanceRecheck at h
    split at h
    · obtain rfl := Option.some.inj h
      exact p.recheckLookedUp_move now t _ _ _ _ _
    · split at h
      · obtain rfl := Option.some.inj h
        exact p.recheckTurn_move now t _ _ _ ‹_›
      · cases h
    · obtain rfl := Option.some.inj h
      exact p.recheckBindEnded_move now t _ _ _ _ _
    · split at h
      · rename_i d hd
        split at h
        · obtain rfl := Option.some.inj h
          exact p.recheckTimedOut_move now t _ (by simp [hd])
        · cases h
      · cases h
    · obtain rfl := Option.some.inj h
      exact .dropped nofun
    · cases h
  | ended result => cases signal <;> simp [advance] at h

theorem Move.descriptor {p p' : Proxy} {now : Instant} {t : Ticket} {stage stage' : Stage}
    {signal : Signal} (m : Move p now t stage signal (p', stage')) : p'.descriptor = p.descriptor := by
  cases m with
  | concluded | recheckConcluded => exact apply_descriptor _ _ _
  | replied => exact observe_descriptor _ _ _
  | recheckDisconnected => exact disconnect_descriptor _ _ _ _
  | _ => rfl

end Proxy

end ServiceBinding
