import ServiceBinding.Proofs.SharedCommand.Move

/-!
# What every state of a run keeps

The places of the bulkhead are those of the calls in line and of the operations that run
(`Sound.occupied`): a call has its place from when it is let in, and hands it over to its operation
when it starts it. An operation is not begun before the turn of its call, and is when the call waits
for its end. `Run.sound` gives this for every state of every run.
-/

namespace ServiceBinding

namespace SharedCommand

/-! ## Who waits and what runs -/

def Stage.isQueued {ε α : Type} : Stage ε α → Bool
  | .waiting (.queued _ _) => true
  | _ => false

def Work.isRunning {ε α : Type} : Work ε α → Bool
  | .running => true
  | _ => false

variable {ε α : Type}

/-- The calls in line for a slot. -/
def queued (s : SharedCommand ε α) : Set Ticket := {t | (s.stage t).isQueued = true}

/-- The calls whose operations have been started and have not ended. -/
def running (s : SharedCommand ε α) : Set Ticket := {t | (s.work t).isRunning = true}

theorem mem_queued {s : SharedCommand ε α} {t : Ticket} :
    t ∈ s.queued ↔ ∃ p d, s.stage t = .waiting (.queued p d) := by
  rw [queued, Set.mem_ofPred_eq]
  unfold Stage.isQueued
  split
  · rename_i p d hs
    exact iff_of_true rfl ⟨p, d, hs⟩
  · rename_i hs
    exact iff_of_false nofun fun ⟨p, d, h⟩ => hs p d h

theorem mem_running {s : SharedCommand ε α} {t : Ticket} :
    t ∈ s.running ↔ s.work t = .running := by
  rw [running, Set.mem_ofPred_eq]
  cases s.work t <;> simp [Work.isRunning]

section

variable {β : Type} {f : Ticket → β} {p : β → Bool} {t : Ticket} {v : β}

theorem setOf_update_of_true (h : p v = true) :
    {u | p (Function.update f t v u) = true} = insert t {u | p (f u) = true} := by
  ext u
  by_cases hu : u = t
  · simp [hu, h]
  · simp [hu]

theorem setOf_update_of_false (h : p v = false) :
    {u | p (Function.update f t v u) = true} = {u | p (f u) = true} \ {t} := by
  ext u
  by_cases hu : u = t
  · simp [hu, h]
  · simp [hu]

end

/-! ## Calls and their operations -/

/-- A call has begun its operation exactly if it has had its turn. -/
def Stage.Fits : Stage ε α → Work ε α → Prop
  | .unstarted, w => w = .unstarted
  | .waiting (.queued _ _), w => w = .unstarted
  | .waiting (.running _ _), w => w ≠ .unstarted
  | .returned (.error (.circuitOpen _)), w => w = .unstarted
  | .returned (.error (.rejected _)), w => w = .unstarted
  | _, _ => True

theorem Stage.Fits.ended {stage : Stage ε α} (h : stage.Fits .running) (e : Ending ε α) :
    stage.Fits (.ended e) := by
  unfold Fits at h ⊢
  split at h
  · cases h
  · cases h
  · exact nofun
  · cases h
  · cases h
  · trivial

theorem fits_answer [FailureKind ε] (e : Ending ε α) (key : String) (w : Work ε α) :
    (Stage.returned (e.answer key)).Fits w := by
  cases e with
  | result r => cases r <;> trivial
  | broken reason => trivial

/-! ## The invariant -/

structure Sound (s : SharedCommand ε α) : Prop where
  occupied : s.command.bulkhead.Occupied ∅ s.queued s.running
  fits : ∀ t, (s.stage t).Fits (s.work t)

theorem new_sound (key : String) (settings : CommandSettings) (now : Instant) :
    Sound (new key settings now : SharedCommand ε α) where
  occupied := by
    have hq : (new key settings now : SharedCommand ε α).queued = ∅ := by
      simp [queued, new, Stage.isQueued]
    have hr : (new key settings now : SharedCommand ε α).running = ∅ := by
      simp [running, new, Work.isRunning]
    exact (Bulkhead.Occupied.new _ _ _).congr rfl hq hr
  fits _ := rfl

variable {s s' : SharedCommand ε α} {e : Event ε α} {t : Ticket}

/-- The calls in line do not change if one goes on that is not in line, and does not come to it. -/
theorem queued_update {stage : Stage ε α} (ht : t ∉ s.queued) (hstage : stage.isQueued = false) :
    {u | (Function.update s.stage t stage u).isQueued = true} = s.queued := by
  rw [setOf_update_of_false hstage]
  exact Set.sdiff_singleton_eq_self ht

theorem fits_update {f : Ticket → Stage ε α} {g : Ticket → Work ε α} (h : ∀ u, (f u).Fits (g u))
    {stage : Stage ε α} (ht : stage.Fits (g t)) (u : Ticket) :
    (Function.update f t stage u).Fits (g u) := by
  by_cases hu : u = t
  · subst hu
    simpa using ht
  · simpa [hu] using h u

theorem notMem_queued_of_unstarted (h : s.stage t = .unstarted) : t ∉ s.queued := by
  simp [mem_queued, h]

theorem notMem_queued_of_running {p : Permission} {d : Instant}
    (h : s.stage t = .waiting (.running p d)) : t ∉ s.queued := by
  simp [mem_queued, h]

/-- Whoever comes is in no line. -/
theorem Sound.notMem_line (hs : Sound s) (h : s.stage t = .unstarted) :
    t ∉ s.command.bulkhead.line := by
  have hwork := hs.fits t
  rw [h] at hwork
  rw [hs.occupied.mem_line, mem_running]
  rintro (hq | hr)
  · exact notMem_queued_of_unstarted h hq
  · cases hr.symm.trans hwork

variable [FailureKind ε]

theorem Sound.occupied_of_step (hs : Sound s) (h : s.step e = some s') :
    s'.command.bulkhead.Occupied ∅ s'.queued s'.running := by
  have ho := hs.occupied
  cases step_move h with
  | pass | tended => exact ho
  | refused hu _ => exact ho.congr rfl (queued_update (notMem_queued_of_unstarted hu) rfl) rfl
  | rejected hu _ hfull =>
    exact (ho.refuse hfull).congr rfl (queued_update (notMem_queued_of_unstarted hu) rfl) rfl
  | @admitted t _ _ hu _ hroom =>
    -- the call lines up as soon as it is let in, so nobody is in between
    have henter := ho.enter hroom (Set.notMem_empty t) (hs.notMem_line hu)
    have hidle : (∅ : Set Ticket) = insert t ∅ \ {t} := by simp
    exact (henter.lineUp (Set.mem_insert t ∅)).congr hidle (setOf_update_of_true rfl) rfl
  | started hq hturn =>
    have hstart := ho.start (mem_queued.mpr ⟨_, _, hq⟩) hturn
    exact hstart.congr rfl (setOf_update_of_false rfl) (setOf_update_of_true rfl)
  | finished hw =>
    exact (ho.finish (mem_running.mpr hw)).congr rfl rfl (setOf_update_of_false rfl)
  | collected hr _ => exact ho.congr rfl (queued_update (notMem_queued_of_running hr) rfl) rfl
  | expiredInLine hq _ _ =>
    have hgone := ho.giveUp (mem_queued.mpr ⟨_, _, hq⟩)
    exact hgone.congr rfl (setOf_update_of_false rfl) rfl
  | droppedInLine hq =>
    have hgone := ho.giveUp (mem_queued.mpr ⟨_, _, hq⟩)
    exact hgone.congr rfl (setOf_update_of_false rfl) rfl
  | expired hr _ _ => exact ho.congr rfl (queued_update (notMem_queued_of_running hr) rfl) rfl
  | dropped hr => exact ho.congr rfl (queued_update (notMem_queued_of_running hr) rfl) rfl

theorem Sound.fits_of_step (hs : Sound s) (h : s.step e = some s') (u : Ticket) :
    (s'.stage u).Fits (s'.work u) := by
  have hf := hs.fits
  cases step_move h with
  | pass | tended => exact hf u
  | @refused t _ hu _ | @rejected t _ _ hu _ _ | @admitted t _ _ hu _ _ =>
    have hwork := hf t
    rw [hu] at hwork
    refine fits_update hf ?_ u
    exact hwork
  | @started t p d hq hturn =>
    by_cases hu : u = t
    · subst hu
      simp [Stage.Fits]
    · simpa [hu] using hf u
  | @finished t e hw =>
    by_cases hu : u = t
    · subst hu
      have hstage := hf u
      rw [hw] at hstage
      simpa using hstage.ended e
    · simpa [hu] using hf u
  | collected => exact fits_update hf (fits_answer _ _ _) u
  | expiredInLine | expired | droppedInLine | dropped =>
    refine fits_update hf ?_ u
    trivial

theorem Sound.step (hs : Sound s) (h : s.step e = some s') : Sound s' :=
  ⟨hs.occupied_of_step h, hs.fits_of_step h⟩

/-- The command keeps its key, its settings and the sizes of its bulkhead. -/
structure IsOf (s : SharedCommand ε α) (name : String) (limits : CommandSettings) : Prop where
  key : s.command.key = name
  settings : s.command.settings = limits
  coreSize : s.command.bulkhead.coreSize = limits.coreSize
  queueSize : s.command.bulkhead.queueSize = limits.queueSize

theorem IsOf.step {name : String} {limits : CommandSettings} (hi : s.IsOf name limits)
    (h : s.step e = some s') : s'.IsOf name limits := by
  obtain ⟨hkey, hsettings, hcore, hqueue⟩ := hi
  cases step_move h with
  | rejected _ _ hfull =>
    rw [Bulkhead.tryEnter_of_full hfull]
    exact ⟨hkey, hsettings, hcore, hqueue⟩
  | admitted _ _ hroom =>
    rw [Bulkhead.tryEnter_of_room hroom]
    exact ⟨hkey, hsettings, hcore, hqueue⟩
  | _ => exact ⟨hkey, hsettings, hcore, hqueue⟩

namespace Run

variable (r : Run ε α) (n : Nat)

theorem sound : Sound (r.state n) := by
  induction n with
  | zero =>
    rw [r.starts]
    exact new_sound _ _ _
  | succ n ih => exact ih.step (r.steps n)

theorem isOf : (r.state n).IsOf r.key r.settings := by
  induction n with
  | zero =>
    rw [r.starts]
    exact ⟨rfl, rfl, rfl, rfl⟩
  | succ n ih => exact ih.step (r.steps n)

theorem move : Move (r.state n) (r.event n) (r.state (n + 1)) := step_move (r.steps n)

variable {r n} {m : Nat} {t : Ticket}

/-- A call that is over stays as it is. -/
theorem stage_of_over (h : ((r.state n).stage t).isOver = true) (hm : n ≤ m) :
    (r.state m).stage t = (r.state n).stage t := by
  induction m, hm using Nat.le_induction with
  | base => rfl
  | succ m hm ih =>
    rw [← ih]
    exact (r.move m).stage_of_over (by rwa [ih])

theorem stage_zero : (r.state 0).stage t = .unstarted := by
  rw [r.starts]
  rfl

theorem begun_mono (h : (r.state n).stage t ≠ .unstarted) (hm : n ≤ m) :
    (r.state m).stage t ≠ .unstarted := by
  induction m, hm using Nat.le_induction with
  | base => exact h
  | succ m hm ih =>
    by_cases hcaller : (r.event m).caller? = some t
    · exact (r.move m).begun hcaller
    · rwa [(r.move m).stage_of_others hcaller]

theorem unstarted_of_call (h : r.event n = .call t) : (r.state n).stage t = .unstarted := by
  have hmove := r.move n
  rw [h] at hmove
  exact hmove.unstarted_of_call

/-- A call comes once. -/
theorem call_unique (hn : r.event n = .call t) (hm : r.event m = .call t) : n = m := by
  have hlt {i j : Nat} (hi : r.event i = .call t) (hj : r.event j = .call t) : ¬ i < j := by
    intro hij
    have hbegun := (r.move i).begun (t := t) (by rw [hi]; rfl)
    exact begun_mono hbegun hij (unstarted_of_call hj)
  have hnm := hlt hn hm
  have hmn := hlt hm hn
  omega

/-- Whoever has been rejected was so when it came, and found no place. -/
theorem exists_call_of_rejected {key : String}
    (h : (r.state n).stage t = .returned (.error (.rejected key))) :
    ∃ m < n, r.event m = .call t ∧
      (r.state (m + 1)).stage t = .returned (.error (.rejected key)) ∧
      ¬ (r.state m).command.bulkhead.held <
        (r.state m).command.bulkhead.coreSize + (r.state m).command.bulkhead.queueSize := by
  induction n with
  | zero => simp [stage_zero] at h
  | succ n ih =>
    rcases (r.move n).rejected_cases h with hbefore | ⟨hcall, hfull⟩
    · obtain ⟨m, hm, hrest⟩ := ih hbefore
      exact ⟨m, by omega, hrest⟩
    · exact ⟨n, Nat.lt_succ_self n, hcall, h, hfull⟩

theorem unstarted_before (h : (r.state n).work t = .unstarted) (hm : m ≤ n) :
    (r.state m).work t = .unstarted := by
  induction n, hm using Nat.le_induction with
  | base => exact h
  | succ n hm ih => exact ih ((r.move n).unstarted_before h)

/-- A call that has not begun has no operation. -/
theorem unstarted_work (h : (r.state n).stage t = .unstarted) : (r.state n).work t = .unstarted := by
  have hfits := (r.sound n).fits t
  rwa [h] at hfits

/-- An operation that has not begun when its call is over never does. -/
theorem never_begun (hover : ((r.state n).stage t).isOver = true)
    (h : (r.state n).work t = .unstarted) (m : Nat) : (r.state m).work t = .unstarted := by
  rcases Nat.le_total m n with hm | hm
  · exact unstarted_before h hm
  · induction m, hm using Nat.le_induction with
    | base => exact h
    | succ m hm ih =>
      rcases (r.move m).work_cases t with hw | ⟨-, ⟨p, d, hq⟩, -⟩ | ⟨_, -, hw, -⟩
      · rwa [hw]
      · rw [← stage_of_over hover hm, hq] at hover
        cases hover
      · simp [ih] at hw

end Run

end SharedCommand

end ServiceBinding
