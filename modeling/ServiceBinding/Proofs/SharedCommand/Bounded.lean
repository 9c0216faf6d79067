import ServiceBinding.Invocation.Error
import ServiceBinding.Proofs.SharedCommand.Invariant

/-!
# The bounds of a command

Whatever the calls of a command do, and whatever becomes of their operations, no more operations run
than there are slots, and no more calls are inside than there are places. `bounded_execution` says this
of every state of every run, and who gives a place back and when: a call that leaves off waiting in
line does, and never begins its operation; a call whose operation runs does not, its operation keeps
the slot until it ends. No place is lost: a command that nobody uses lets in as many calls as a new
one.
-/

namespace ServiceBinding

namespace SharedCommand

variable {ε α : Type} [FailureKind ε]

/-! ## Steps -/

section

variable {s s' : SharedCommand ε α} {e : Event ε α} {t : Ticket}

/-- A call in line that leaves off takes its place with it. -/
theorem Move.leaves_line (m : Move s e s') (he : e = .deadline t ∨ e = .drop t) (h : t ∈ s.queued) :
    (s'.stage t).isOver = true ∧ s'.queued = s.queued \ {t} ∧ s'.running = s.running := by
  obtain ⟨p, d, hq⟩ := mem_queued.mp h
  rcases he with rfl | rfl
  · cases m with
    | expiredInLine hs =>
      exact ⟨by simp [Stage.isOver], setOf_update_of_false rfl, rfl⟩
    | expired hs => simp [hq] at hs
  · cases m with
    | droppedInLine hs =>
      exact ⟨by simp [Stage.isOver], setOf_update_of_false rfl, rfl⟩
    | dropped hs => simp [hq] at hs

/-- A call whose operation has begun leaves it its place. -/
theorem Move.leaves_running (m : Move s e s') (he : e = .deadline t ∨ e = .drop t)
    (hs : Sound s) (h : t ∈ s.running) : s'.command.bulkhead = s.command.bulkhead := by
  have hqueued : t ∉ s.queued := Set.disjoint_right.mp hs.occupied.apart h
  rcases he with rfl | rfl
  · cases m with
    | expiredInLine hq => exact absurd (mem_queued.mpr ⟨_, _, hq⟩) hqueued
    | expired => rfl
  · cases m with
    | droppedInLine hq => exact absurd (mem_queued.mpr ⟨_, _, hq⟩) hqueued
    | dropped => rfl

theorem Move.running_until (m : Move s e s') (he : ∀ ending, e ≠ .finish t ending)
    (h : t ∈ s.running) : t ∈ s'.running := by
  rw [mem_running] at h ⊢
  rcases m.work_cases t with hw | ⟨-, -, hw⟩ | ⟨ending, hfinish, -, -⟩
  · rw [hw, h]
  · exact hw
  · exact absurd hfinish (he ending)

/-- An operation that ends gives its slot and its place back. -/
theorem Move.frees (hs : Sound s) {ending : Ending ε α} (m : Move s (.finish t ending) s') :
    t ∈ s.running ∧ s'.running = s.running \ {t} ∧ s'.queued = s.queued ∧
      s'.command.bulkhead.held + 1 = s.command.bulkhead.held := by
  cases m with
  | finished hw =>
    have ht : t ∈ s.running := mem_running.mpr hw
    have hline : t ∈ s.command.bulkhead.line := (hs.occupied.mem_line t).mpr (.inr ht)
    have hpos := List.length_pos_of_mem hline
    have hheld := hs.occupied.held
    refine ⟨ht, setOf_update_of_false rfl, rfl, ?_⟩
    simp only [Bulkhead.finish]
    omega

end

/-! ## Runs -/

namespace Run

variable {r : Run ε α} {n m : Nat} {t : Ticket}

/-- A call leaves off waiting: its deadline has passed, or nobody waits for it any more. -/
def LeavesOff (r : Run ε α) (n : Nat) (t : Ticket) : Prop :=
  r.event n = .deadline t ∨ r.event n = .drop t

/-- The operations of these calls run at that time. -/
abbrev running (r : Run ε α) (n : Nat) : Set Ticket := (r.state n).running

/-- These calls are in line at that time. -/
abbrev queued (r : Run ε α) (n : Nat) : Set Ticket := (r.state n).queued

abbrev bulkhead (r : Run ε α) (n : Nat) : Bulkhead := (r.state n).command.bulkhead

theorem active_eq : (r.bulkhead n).active = (r.running n).ncard := (r.sound n).occupied.active

theorem waiting_eq : (r.bulkhead n).waiting = (r.queued n).ncard := by
  have hwaiting := (r.sound n).occupied.waiting
  rwa [Set.ncard_empty, Nat.zero_add] at hwaiting

theorem held_eq : (r.bulkhead n).held = (r.queued n).ncard + (r.running n).ncard := by
  have hplaces := (r.sound n).occupied.active_add_waiting
  rw [← hplaces, active_eq, waiting_eq, Nat.add_comm]

theorem active_le : (r.bulkhead n).active ≤ r.settings.coreSize := by
  have hle := (r.sound n).occupied.active_le
  rwa [(r.isOf n).coreSize] at hle

theorem held_le : (r.bulkhead n).held ≤ r.settings.coreSize + r.settings.queueSize := by
  have hle := (r.sound n).occupied.held_le
  rwa [(r.isOf n).coreSize, (r.isOf n).queueSize] at hle

/-- Whoever has been rejected found every place taken. -/
theorem full_of_rejected {key : String}
    (h : (r.state n).stage t = .returned (.error (.rejected key))) :
    ∃ m < n, r.event m = .call t ∧
      (r.queued m).ncard + (r.running m).ncard = r.settings.coreSize + r.settings.queueSize := by
  obtain ⟨m, hm, hcall, -, hfull⟩ := exists_call_of_rejected h
  rw [(r.isOf m).coreSize, (r.isOf m).queueSize] at hfull
  refine ⟨m, hm, hcall, ?_⟩
  rw [← held_eq]
  exact Nat.le_antisymm held_le (Nat.not_lt.mp hfull)

/-- A call that leaves off in line never begins its operation, and makes room for another one. -/
theorem leaves_line (hq : t ∈ r.queued n) (hleaves : r.LeavesOff n t) :
    (∀ m, (r.state m).work t = .unstarted) ∧
      r.queued (n + 1) = r.queued n \ {t} ∧ r.running (n + 1) = r.running n ∧
      (r.bulkhead (n + 1)).held + 1 = (r.bulkhead n).held ∧
      (r.bulkhead (n + 1)).tryEnter.2 = true := by
  obtain ⟨hover, hqueued, hrunning⟩ := (r.move n).leaves_line hleaves hq
  obtain ⟨p, d, hstage⟩ := mem_queued.mp hq
  have hunstarted : (r.state n).work t = .unstarted := by
    have hfits := (r.sound n).fits t
    rwa [hstage] at hfits
  have hafter : (r.state (n + 1)).work t = .unstarted := by
    rw [← hunstarted]
    rcases hleaves with he | he
    · exact (r.move n).work_of_others (by simp [he]) (by simp [he])
    · exact (r.move n).work_of_others (by simp [he]) (by simp [he])
  have hheld : (r.bulkhead (n + 1)).held + 1 = (r.bulkhead n).held := by
    have hone := Set.ncard_sdiff_singleton_add_one hq (r.sound n).occupied.queued_finite
    calc (r.bulkhead (n + 1)).held + 1
        = (r.queued n \ {t}).ncard + (r.running n).ncard + 1 := by
          rw [held_eq, queued, hqueued, running, hrunning]
      _ = (r.queued n \ {t}).ncard + 1 + (r.running n).ncard := by omega
      _ = (r.bulkhead n).held := by rw [hone, held_eq]
  refine ⟨never_begun hover hafter, hqueued, hrunning, hheld, ?_⟩
  have hle := held_le (r := r) (n := n)
  rw [Bulkhead.tryEnter_iff, (r.isOf (n + 1)).coreSize, (r.isOf (n + 1)).queueSize]
  omega

/-- An operation keeps its slot until it ends. -/
theorem running_until (h : t ∈ r.running n) (hm : n ≤ m)
    (hfinish : ∀ k, n ≤ k → k < m → ∀ ending, r.event k ≠ .finish t ending) :
    t ∈ r.running m ∧ t ∈ (r.bulkhead m).line.take r.settings.coreSize := by
  have hruns : t ∈ r.running m := by
    induction m, hm using Nat.le_induction with
    | base => exact h
    | succ m hm ih =>
      have hbefore := ih fun k hk hkm => hfinish k hk (by omega)
      exact (r.move m).running_until (hfinish m hm (Nat.lt_succ_self m)) hbefore
  have hfront := (r.sound m).occupied.front t hruns
  rw [(r.isOf m).coreSize] at hfront
  exact ⟨hruns, hfront⟩

/-- A command that no call waits in and under which no operation runs is empty. -/
theorem empty_of_idle (hcalls : ∀ t x, (r.state n).stage t ≠ .waiting x)
    (hwork : ∀ t, (r.state n).work t ≠ .running) : r.queued n = ∅ ∧ r.running n = ∅ := by
  constructor
  · ext t
    simp [mem_queued, hcalls]
  · ext t
    simp [mem_running, hwork]

end Run

/-- The bounds of a command. The operations that have begun and not ended are those the bulkhead
counts, and there are never more than slots; with the calls in line there are never more than places.
A call is rejected only if it finds all of them taken. A call that leaves off in line never begins its
operation and gives its place back; one whose operation runs leaves the place to it, which keeps it
until it ends and gives it back then. A command that no call waits in and under which no operation runs
is empty, and lets in as many calls as it has places. -/
theorem bounded_execution (r : Run ε α) (n : Nat) :
    ((r.running n).Finite ∧ (r.running n).ncard = (r.bulkhead n).active ∧
      (r.bulkhead n).active ≤ r.settings.coreSize) ∧
    ((r.queued n).Finite ∧ (r.queued n).ncard = (r.bulkhead n).waiting ∧
      (r.bulkhead n).active + (r.bulkhead n).waiting ≤
        r.settings.coreSize + r.settings.queueSize) ∧
    (∀ t key, (r.state n).stage t = .returned (.error (.rejected key)) →
      ∃ m < n, r.event m = .call t ∧
        (r.queued m).ncard + (r.running m).ncard =
          r.settings.coreSize + r.settings.queueSize) ∧
    (∀ t ∈ r.queued n, r.LeavesOff n t →
      (∀ m, (r.state m).work t = .unstarted) ∧
        r.queued (n + 1) = r.queued n \ {t} ∧ r.running (n + 1) = r.running n ∧
        (r.bulkhead (n + 1)).held + 1 = (r.bulkhead n).held ∧
        (r.bulkhead (n + 1)).tryEnter.2 = true) ∧
    (∀ t ∈ r.running n,
      (r.LeavesOff n t → r.bulkhead (n + 1) = r.bulkhead n) ∧
        ∀ m, n ≤ m → (∀ k, n ≤ k → k < m → ∀ ending, r.event k ≠ .finish t ending) →
          t ∈ r.running m ∧ t ∈ (r.bulkhead m).line.take r.settings.coreSize) ∧
    (∀ t ending, r.event n = .finish t ending →
      t ∈ r.running n ∧ r.running (n + 1) = r.running n \ {t} ∧
        r.queued (n + 1) = r.queued n ∧
        (r.bulkhead (n + 1)).held + 1 = (r.bulkhead n).held) ∧
    ((∀ t x, (r.state n).stage t ≠ .waiting x) → (∀ t, (r.state n).work t ≠ .running) →
      (r.bulkhead n).active = 0 ∧ (r.bulkhead n).waiting = 0 ∧
        ∀ calls, (∀ k < calls, ((r.bulkhead n).afterCalls k).tryEnter.2 = true) ↔
          calls ≤ r.settings.coreSize + r.settings.queueSize) := by
  have ho := (r.sound n).occupied
  have hplaces : (r.bulkhead n).active + (r.bulkhead n).waiting ≤
      r.settings.coreSize + r.settings.queueSize := by
    rw [ho.active_add_waiting]
    exact Run.held_le
  refine ⟨⟨ho.running_finite, Run.active_eq.symm, Run.active_le⟩,
    ⟨ho.queued_finite, Run.waiting_eq.symm, hplaces⟩, fun t key h => Run.full_of_rejected h,
    fun t hq => Run.leaves_line hq, fun t hr => ?_, fun t ending he => ?_, fun hcalls hwork => ?_⟩
  · have hkeeps := fun hleaves => (r.move n).leaves_running hleaves (r.sound n) hr
    exact ⟨hkeeps, fun m hm hfinish => Run.running_until hr hm hfinish⟩
  · have hmove := r.move n
    rw [he] at hmove
    exact hmove.frees (r.sound n)
  · obtain ⟨hq, hr⟩ := Run.empty_of_idle hcalls hwork
    have hheld : (r.bulkhead n).held = 0 := by rw [Run.held_eq, hq, hr, Set.ncard_empty]
    refine ⟨by rw [Run.active_eq, hr, Set.ncard_empty], by rw [Run.waiting_eq, hq, Set.ncard_empty],
      fun calls => ?_⟩
    rw [Bulkhead.lets_in_iff_of_empty hheld, (r.isOf n).coreSize, (r.isOf n).queueSize]

namespace Sample

/-- One call starts its operation, the next one waits in line and a third one is turned away. The time
of the two is over before the operation ends. -/
def crowdedRun : Run InvocationError Unit :=
  .ofEvents "lunch" narrow
    [.call 0, .turn 0, .call 1, .call 2, .pass 10, .deadline 0, .deadline 1,
      .finish 0 (.result (.ok ()))]
    rfl

theorem crowdedRun_idle :
    (∀ t x, (crowdedRun.state 8).stage t ≠ .waiting x) ∧
      ∀ t, (crowdedRun.state 8).work t ≠ .running := by
  constructor
  · intro t
    match t with
    | 0 | 1 | 2 | _ + 3 => exact nofun
  · intro t
    match t with
    | 0 | 1 | 2 | _ + 3 => exact nofun

end Sample

/-- The third call finds both places taken, the second one never begins its operation, the operation of
the first one runs on in its slot, and in the end both places are free. -/
theorem bounded_execution_crowdedRun :
    (∃ m < 4, Sample.crowdedRun.event m = .call 2 ∧
      (Sample.crowdedRun.queued m).ncard + (Sample.crowdedRun.running m).ncard = 2) ∧
    (1 ∈ Sample.crowdedRun.queued 6 ∧ Sample.crowdedRun.LeavesOff 6 1 ∧
      ∀ m, (Sample.crowdedRun.state m).work 1 = .unstarted) ∧
    (0 ∈ Sample.crowdedRun.running 5 ∧ Sample.crowdedRun.LeavesOff 5 0 ∧
      Sample.crowdedRun.bulkhead 6 = Sample.crowdedRun.bulkhead 5 ∧
      0 ∈ Sample.crowdedRun.running 7 ∧
      Sample.crowdedRun.running 8 = Sample.crowdedRun.running 7 \ {0}) ∧
    ((Sample.crowdedRun.bulkhead 8).active = 0 ∧ (Sample.crowdedRun.bulkhead 8).waiting = 0 ∧
      ∀ calls, (∀ k < calls, ((Sample.crowdedRun.bulkhead 8).afterCalls k).tryEnter.2 = true) ↔
        calls ≤ 2) := by
  obtain ⟨-, -, hrejected, -⟩ := bounded_execution Sample.crowdedRun 4
  obtain ⟨-, -, -, -, hruns, -⟩ := bounded_execution Sample.crowdedRun 5
  obtain ⟨-, -, -, hline, -⟩ := bounded_execution Sample.crowdedRun 6
  obtain ⟨-, -, -, -, -, hfinish, -⟩ := bounded_execution Sample.crowdedRun 7
  obtain ⟨-, -, -, -, -, -, hidle⟩ := bounded_execution Sample.crowdedRun 8
  have hone : 1 ∈ Sample.crowdedRun.queued 6 := mem_queued.mpr ⟨_, _, rfl⟩
  have hzero : 0 ∈ Sample.crowdedRun.running 5 := mem_running.mpr rfl
  have hnever := (hline 1 hone (.inl rfl)).1
  have hkeeps := (hruns 0 hzero).1 (.inl rfl)
  have hends := hfinish 0 _ rfl
  have hempty := hidle Sample.crowdedRun_idle.1 Sample.crowdedRun_idle.2
  exact ⟨hrejected 2 _ rfl, ⟨hone, .inl rfl, hnever⟩,
    ⟨hzero, .inl rfl, hkeeps, hends.1, hends.2.1⟩, hempty⟩

end SharedCommand

end ServiceBinding
