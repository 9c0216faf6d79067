import ServiceBinding.Proofs.SharedCommand.Outcomes

/-!
# Where answers come from

The operation of a call is started once at most (`Run.turn_unique`), and never if the command refuses the
call (`Run.never_starts`). If it ends while its call still waits, its end is what the call returns
(`Run.answer_of_ends`); a result of the operation is returned only then (`Run.ends_of_answer`).
-/

namespace ServiceBinding

theorem Ending.eq_of_answer {ε α : Type} {key : String} {e : Ending ε α} {provided : Except ε α}
    (h : e.answer key = provided.mapError CommandError.execution) : e = .result provided := by
  cases e with
  | result r => cases r <;> cases provided <;> simp_all [Ending.answer, Except.mapError]
  | broken reason => cases provided <;> cases h

namespace SharedCommand

/-! ## Starts -/

theorem Sound.unstarted_of_queued {ε α : Type} {s : SharedCommand ε α} {t : Ticket} (hs : Sound s)
    {p : Permission} {d : Instant} (h : s.stage t = .waiting (.queued p d)) :
    s.work t = .unstarted := by
  have hfits := hs.fits t
  rwa [h] at hfits

variable {ε α : Type} [FailureKind ε]

section

variable {s s' : SharedCommand ε α} {e : Event ε α} {t : Ticket}

/-- A call that has its turn has waited in line, and its operation runs. -/
theorem Move.of_turn (m : Move s (.turn t) s') :
    (∃ p d, s.stage t = .waiting (.queued p d)) ∧ s'.work t = .running := by
  cases m with
  | started hs => exact ⟨⟨_, _, hs⟩, Function.update_self _ _ _⟩

/-! ## Ends -/

/-- Nothing has come of a call whose operation has ended but that end. -/
def Stage.Takes (key : String) (ending : Ending ε α) : Stage ε α → Prop
  | .unstarted => False
  | .waiting _ | .dropped => True
  | .returned answer => answer = ending.answer key

theorem Move.takes (m : Move s e s') (hs : Sound s) {ending : Ending ε α}
    (hw : s.work t = .ended ending) (h : (s.stage t).Takes s.command.key ending) :
    s'.work t = .ended ending ∧ (s'.stage t).Takes s.command.key ending := by
  have hline {p d} (hq : s.stage t = .waiting (.queued p d)) : False := by
    cases hw.symm.trans (hs.unstarted_of_queued hq)
  constructor
  · rcases m.work_cases t with hsame | ⟨-, ⟨p, d, hq⟩, -⟩ | ⟨_, -, hruns, -⟩
    · rw [hsame, hw]
    · exact (hline hq).elim
    · cases hw.symm.trans hruns
  · by_cases hcaller : e.caller? = some t
    · cases m with
      | pass | finished | tended => cases hcaller
      | refused hu | rejected hu | admitted hu =>
        obtain rfl := Option.some.inj hcaller
        rw [hu] at h
        exact h.elim
      | started hq | expiredInLine hq | droppedInLine hq =>
        obtain rfl := Option.some.inj hcaller
        exact (hline hq).elim
      | collected hr hended =>
        obtain rfl := Option.some.inj hcaller
        obtain rfl := Work.ended.inj (hw.symm.trans hended)
        simp [Stage.Takes]
      | expired hr hd hready =>
        -- at its deadline a call takes the end of its operation first
        obtain rfl := Option.some.inj hcaller
        simp [isReady, hw] at hready
      | dropped =>
        obtain rfl := Option.some.inj hcaller
        simp [Stage.Takes]
    · rwa [m.stage_of_others hcaller]

end

namespace Run

variable {r : Run ε α} {n m : Nat} {t : Ticket}

/-- An operation is started once. -/
theorem turn_unique (hn : r.event n = .turn t) (hm : r.event m = .turn t) : n = m := by
  have hlt {i j : Nat} (hi : r.event i = .turn t) (hj : r.event j = .turn t) : ¬ i < j := by
    intro hij
    have hfirst := r.move i
    have hsecond := r.move j
    rw [hi] at hfirst
    rw [hj] at hsecond
    obtain ⟨⟨p, d, hq⟩, -⟩ := hsecond.of_turn
    have hunstarted := unstarted_before ((r.sound j).unstarted_of_queued hq) (Nat.succ_le_of_lt hij)
    cases hfirst.of_turn.2.symm.trans hunstarted
  have hnm := hlt hn hm
  have hmn := hlt hm hn
  omega

/-- The operation of a call that the command refuses is never started. -/
theorem never_starts {key : String} {err : CommandError ε}
    (hrefused : err = .circuitOpen key ∨ err = .rejected key)
    (h : (r.state n).stage t = .returned (.error err)) (m : Nat) : r.event m ≠ .turn t := by
  intro hturn
  have hmove := r.move m
  rw [hturn] at hmove
  have hfits := (r.sound n).fits t
  have hunstarted : (r.state n).work t = .unstarted := by
    rcases hrefused with rfl | rfl
    · rwa [h] at hfits
    · rwa [h] at hfits
  have hnever := never_begun (by rw [h]; rfl) hunstarted (m + 1)
  cases hmove.of_turn.2.symm.trans hnever

/-- The operation of a call ends while the call waits for it. -/
def EndsInTime (r : Run ε α) (t : Ticket) (ending : Ending ε α) : Prop :=
  ∃ n x, (r.state n).stage t = .waiting x ∧ (r.state n).work t = .ended ending

/-- What a call returns whose operation ends in time is that end. -/
theorem answer_of_ends {ending : Ending ε α} (he : r.EndsInTime t ending)
    {answer : Except (CommandError ε) α} (h : (r.state m).stage t = .returned answer) :
    answer = ending.answer r.key := by
  obtain ⟨n, x, hx, hw⟩ := he
  have hnm : n ≤ m := by
    -- a call that has returned does not wait any more
    by_contra hlt
    have hstays := stage_of_over (r := r) (t := t) (by rw [h]; rfl) (Nat.le_of_not_le hlt)
    cases (hstays.trans h).symm.trans hx
  have htakes : (r.state m).work t = .ended ending ∧ ((r.state m).stage t).Takes r.key ending := by
    clear h
    induction m, hnm using Nat.le_induction with
    | base => exact ⟨hw, by rw [hx]; trivial⟩
    | succ m hm ih =>
      have hnext := (r.move m).takes (r.sound m) (t := t) ih.1
      rw [(r.isOf m).key] at hnext
      exact hnext ih.2
  have hanswer := htakes.2
  rwa [h] at hanswer

/-- A call returns a result of its operation only if that has ended with it in time. -/
theorem ends_of_answer {provided : Except ε α}
    (h : (r.state m).stage t = .returned (provided.mapError CommandError.execution)) :
    r.EndsInTime t (.result provided) := by
  -- the step in which the call returned is one that took the end of its operation
  induction m with
  | zero => simp [stage_zero] at h
  | succ m ih =>
    by_cases hcaller : (r.event m).caller? = some t
    · have hmove := r.move m
      generalize r.event m = e, r.state (m + 1) = s' at hmove hcaller h
      cases hmove with
      | pass | finished | tended => cases hcaller
      | @collected _ _ _ ending hr hw =>
        obtain rfl := Option.some.inj hcaller
        have hanswer : ending.answer (r.state m).command.key = provided.mapError CommandError.execution :=
          by simpa using h
        rw [Ending.eq_of_answer hanswer] at hw
        exact ⟨m, _, hr, hw⟩
      | _ =>
        obtain rfl := Option.some.inj hcaller
        cases provided <;> simp [Except.mapError] at h
    · rw [(r.move m).stage_of_others hcaller] at h
      exact ih h

end Run

end SharedCommand

end ServiceBinding
