import ServiceBinding.Proofs.SharedProxy.Invariant

/-!
# The past of a state of a run

What the stage of a task tells of earlier steps: a task that has begun has begun once, a caller in
line was in line since it came, and who has an answer of the registry has asked it once. The
generation numbers the attempts applied, so the basis of a task says how many there had been when the
task began (`Run.exists_begins`).
-/

namespace ServiceBinding

namespace Proxy

namespace Stage

/-- A caller waits for its turn. -/
def isQueued : Stage → Bool
  | .rebinding _ (.queued ..) => true
  | _ => false

theorem isCallAttempt_of_isCallLookup {stage : Stage} (h : stage.isCallLookup = true) :
    stage.isCallAttempt = true := by
  unfold isCallLookup at h
  split at h <;> first | rfl | cases h

theorem isLookup_of_isCallLookup {stage : Stage} (h : stage.isCallLookup = true) :
    stage.isLookup = true := by
  unfold isCallLookup at h
  split at h <;> first | rfl | cases h

theorem not_isQueued_of_isLookup {stage : Stage} (h : stage.isLookup = true) :
    stage.isQueued = false := by
  unfold isLookup at h
  split at h <;> first | rfl | cases h

end Stage

section

variable {p p' : Proxy} {now : Instant} {t : Ticket} {stage stage' : Stage} {signal : Signal}

theorem Request.resume_hasAsked (q : Request) (r : Except InvocationError Bound) :
    (q.resume r).hasAsked = false := by
  rcases q.resume_cases r with ⟨_, h⟩ | ⟨_, _, _, h, _⟩ <;> rw [h] <;> rfl

theorem Request.resume_isLookup (q : Request) (r : Except InvocationError Bound) :
    (q.resume r).isLookup = false := by
  rcases q.resume_cases r with ⟨_, h⟩ | ⟨_, _, _, h, _⟩ <;> rw [h] <;> rfl

theorem Request.resume_isQueued (q : Request) (r : Except InvocationError Bound) :
    (q.resume r).isQueued = false := by
  rcases q.resume_cases r with ⟨_, h⟩ | ⟨_, _, _, h, _⟩ <;> rw [h] <;> rfl

theorem Request.resume_ne_unstarted (q : Request) (r : Except InvocationError Bound) :
    q.resume r ≠ .unstarted := by
  rcases q.resume_cases r with ⟨_, h⟩ | ⟨_, _, _, h, _⟩ <;> rw [h] <;> nofun

theorem Move.started (m : Move p now t stage signal (p', stage')) : stage' ≠ .unstarted := by
  cases m with
  | served | overtaken | concluded | gaveUp => exact Request.resume_ne_unstarted _ _
  | _ => nofun

/-- A caller lines up when it comes, and only then. -/
theorem Move.queued (m : Move p now t stage signal (p', stage')) (h : stage'.isQueued = true) :
    stage = .unstarted := by
  cases m with
  | served | linedUp => rfl
  | overtaken | concluded | gaveUp =>
    rw [Request.resume_isQueued] at h
    cases h
  | _ => cases h

/-- The registry is asked by a recheck that begins, unless the cause is fatal, or by a caller whose
turn has come in the generation in which it came. -/
theorem Move.asks (m : Move p now t stage signal (p', stage')) (h : stage'.isLookup = true) :
    (stage = .unstarted ∧ ¬ p.Fatal) ∨
      (stage.isQueued = true ∧ stage.basis? p.generation = some p.generation) := by
  cases m with
  | lookedUp => exact .inr ⟨rfl, rfl⟩
  | recheckLookedUp hf => exact .inl ⟨rfl, hf⟩
  | served | overtaken | concluded | gaveUp =>
    rw [Request.resume_isLookup] at h
    cases h
  | _ => cases h

theorem Move.hasAsked (m : Move p now t stage signal (p', stage')) (h : stage'.hasAsked = true) :
    stage.hasAsked = true ∨ stage.isLookup = false ∧ stage'.isLookup = true := by
  cases m with
  | lookedUp | recheckLookedUp => exact .inr ⟨rfl, rfl⟩
  | planned | recheckLinedUp | recheckPlanned => exact .inl rfl
  | served | overtaken | concluded | gaveUp =>
    rw [Request.resume_hasAsked] at h
    cases h
  | _ => cases h

end

end Proxy

namespace SharedProxy

open Proxy

namespace Run

variable {r : Run} {t : Ticket}

/-! ## What happens in a step -/

/-- In step `n` the task begins. -/
def Begins (r : Run) (n : Nat) (t : Ticket) : Prop :=
  (r.state n).stage t = .unstarted ∧ (r.state (n + 1)).stage t ≠ .unstarted

/-- In step `n` the task, a caller, lines up for an attempt to bind. -/
def LinesUp (r : Run) (n : Nat) (t : Ticket) : Prop :=
  (r.state n).stage t = .unstarted ∧ ((r.state (n + 1)).stage t).isQueued = true

/-- In step `n` the task asks the registry. -/
def LooksUp (r : Run) (n : Nat) (t : Ticket) : Prop :=
  ((r.state n).stage t).isLookup = false ∧ ((r.state (n + 1)).stage t).isLookup = true

/-- In step `n` the task, a caller, asks the registry. -/
def CallLooksUp (r : Run) (n : Nat) (t : Ticket) : Prop :=
  r.LooksUp n t ∧ ((r.state (n + 1)).stage t).isCallLookup = true

/-- In step `n` an attempt of the task to bind is applied to the proxy, whatever came of it. -/
def Applies (r : Run) (n : Nat) (t : Ticket) : Prop :=
  (∃ signal, r.event n = .wake t signal) ∧
    ∃ result, (r.state (n + 1)).proxy =
      ((r.state n).proxy.apply (r.state n).now result).1.leaveLine t

theorem LinesUp.begins {n : Nat} (h : r.LinesUp n t) : r.Begins n t := by
  refine ⟨h.1, fun he => ?_⟩
  rw [LinesUp, he] at h
  cases h.2

/-! ## Stages -/

/-- In a step a task keeps its stage or makes a move. -/
theorem stage_succ (r : Run) (n : Nat) (t : Ticket) :
    (r.state (n + 1)).stage t = (r.state n).stage t ∨
      ∃ signal, Move (r.state n).proxy (r.state n).now t ((r.state n).stage t) signal
        ((r.state (n + 1)).proxy, (r.state (n + 1)).stage t) := by
  rcases step_cases (r.steps n) with ⟨d, -, h⟩ | ⟨u, signal, -, hm, ho, -⟩
  · exact .inl (by rw [h])
  · by_cases hu : t = u
    · subst hu
      exact .inr ⟨signal, hm⟩
    · exact .inl (ho t hu)

theorem stage_zero (r : Run) (t : Ticket) : (r.state 0).stage t = .unstarted := by
  obtain ⟨descriptor, settings, now, h⟩ := r.starts
  rw [h]
  rfl

theorem started_mono {n m : Nat} (hnm : n ≤ m) (h : (r.state n).stage t ≠ .unstarted) :
    (r.state m).stage t ≠ .unstarted := by
  induction hnm with
  | refl => exact h
  | step _ ih =>
    rename_i m _
    rcases r.stage_succ m t with hs | ⟨signal, hm⟩
    · rwa [hs]
    · exact hm.started

theorem begins_unique {n m : Nat} (hn : r.Begins n t) (hm : r.Begins m t) : n = m := by
  rcases Nat.lt_trichotomy n m with h | h | h
  · exact absurd hm.1 (started_mono h hn.2)
  · exact h
  · exact absurd hn.1 (started_mono h hm.2)

/-- A caller in line has been in line since it came. -/
theorem queued_back {n m : Nat} (hnm : n ≤ m) (h : ((r.state m).stage t).isQueued = true) :
    (r.state n).stage t = .unstarted ∨ ((r.state n).stage t).isQueued = true := by
  induction hnm with
  | refl => exact .inr h
  | step hle ih =>
    rename_i m
    rcases r.stage_succ m t with hs | ⟨signal, hm⟩
    · exact ih (hs ▸ h)
    · -- the caller lines up only now, so it had not begun before
      have hu : (r.state m).stage t = .unstarted := hm.queued h
      left
      by_contra hn
      exact started_mono hle hn hu

theorem looksUp_unique {n m : Nat} (hn : r.LooksUp n t) (hm : r.LooksUp m t) : n = m := by
  have hlt {a b : Nat} (ha : r.LooksUp a t) (hb : r.LooksUp b t) : ¬ a < b := by
    intro hab
    have hstarted : (r.state (a + 1)).stage t ≠ .unstarted := by
      intro h
      rw [LooksUp, h] at ha
      cases ha.2
    rcases r.stage_succ b t with hs | ⟨signal, hmove⟩
    · rw [LooksUp, hs, hb.2] at hb
      cases hb.1
    -- to ask at `b` the task would have to be unstarted or in line there, and it is past both
    · rcases hmove.asks hb.2 with ⟨hu, -⟩ | ⟨hq, -⟩
      · exact started_mono hab hstarted hu
      · rcases queued_back hab hq with hu | hq'
        · exact hstarted hu
        · rw [Stage.not_isQueued_of_isLookup ha.2] at hq'
          cases hq'
  have := hlt hn hm
  have := hlt hm hn
  omega

/-- Who goes by an answer of the registry has asked for it. -/
theorem exists_looksUp {n : Nat} (h : ((r.state n).stage t).hasAsked = true) :
    ∃ k < n, r.LooksUp k t := by
  induction n with
  | zero =>
    rw [r.stage_zero] at h
    cases h
  | succ n ih =>
    have hold (h : ((r.state n).stage t).hasAsked = true) : ∃ k < n + 1, r.LooksUp k t := by
      obtain ⟨k, hk, hl⟩ := ih h
      exact ⟨k, by omega, hl⟩
    rcases r.stage_succ n t with hs | ⟨signal, hm⟩
    · exact hold (hs ▸ h)
    · rcases hm.hasAsked h with h | h
      · exact hold h
      · exact ⟨n, by omega, h⟩

/-! ## Generations -/

theorem Applies.generation {n : Nat} (h : r.Applies n t) :
    (r.state (n + 1)).proxy.generation = (r.state n).proxy.generation + 1 := by
  obtain ⟨-, result, h⟩ := h
  simp [h]

/-- A step in which no attempt is applied keeps the generation, and what it does to the connection
is at most to take the binding down. -/
theorem applies_or_kept (r : Run) (n : Nat) :
    (∃ t, r.Applies n t) ∨
      (r.state (n + 1)).proxy.generation = (r.state n).proxy.generation ∧
        ((r.state (n + 1)).proxy.connection = (r.state n).proxy.connection ∨
          (r.state n).proxy.isBound = true ∧ (r.state (n + 1)).proxy.Mendable) := by
  rcases step_cases (r.steps n) with ⟨d, -, h⟩ | ⟨t, signal, he, hm, -, -⟩
  · right
    rw [h]
    exact ⟨rfl, .inl rfl⟩
  · rcases hm.effect with ⟨hc, hg⟩ | ⟨hb, hmend, hg⟩ | ⟨-, -, -, result, hp⟩
    · exact .inr ⟨hg, .inl hc⟩
    · exact .inr ⟨hg, .inr ⟨hb, hmend⟩⟩
    · exact .inl ⟨t, ⟨signal, he⟩, result, hp⟩

theorem generation_mono {n m : Nat} (hnm : n ≤ m) :
    (r.state n).proxy.generation ≤ (r.state m).proxy.generation := by
  induction hnm with
  | refl => exact Nat.le_refl _
  | step _ ih =>
    rename_i m _
    rcases r.applies_or_kept m with ⟨u, h⟩ | ⟨h, -⟩
    · refine Nat.le_trans ih ?_
      rw [h.generation]
      exact Nat.le_succ _
    · rwa [h]

/-- An attempt is applied by a task that has asked the registry and relies on the present
generation. -/
theorem Applies.basis? {n : Nat} (h : r.Applies n t) :
    ((r.state n).stage t).hasAsked = true ∧
      ((r.state n).stage t).basis? (r.state n).proxy.generation =
        some (r.state n).proxy.generation := by
  have hg := h.generation
  obtain ⟨⟨signal, he⟩, -⟩ := h
  rcases step_cases (r.steps n) with ⟨d, he', -⟩ | ⟨u, signal', he', hm, -, -⟩
  · rw [he] at he'
    cases he'
  · obtain ⟨rfl, -⟩ := Event.wake.inj (he.symm.trans he')
    rcases hm.effect with ⟨-, h⟩ | ⟨-, -, h⟩ | ⟨ha, hb, -, -⟩
    · omega
    · omega
    · exact ⟨ha, hb⟩

/-- The basis of a task is the generation in which the task began. -/
theorem exists_begins {n g : Nat}
    (h : ((r.state n).stage t).basis? (r.state n).proxy.generation = some g) :
    ∃ k < n, r.Begins k t ∧ (r.state k).proxy.generation = g := by
  induction n with
  | zero =>
    rw [r.stage_zero] at h
    cases h
  | succ n ih =>
    have hold (h : ((r.state n).stage t).basis? (r.state n).proxy.generation = some g) :
        ∃ k < n + 1, r.Begins k t ∧ (r.state k).proxy.generation = g := by
      obtain ⟨k, hk, hb⟩ := ih h
      exact ⟨k, by omega, hb⟩
    rcases step_cases (r.steps n) with ⟨d, -, hd⟩ | ⟨u, signal, -, hm, ho, -⟩
    · rw [hd] at h
      exact hold h
    · rcases (r.sound n).basis?_of_wake hm ho h with h | ⟨rfl, hu, -, hg, -⟩
      · exact hold h
      · exact ⟨n, by omega, ⟨hu, hm.started⟩, hg.symm⟩

/-- No attempt is applied between the beginning of a task and a step in which it relies on the
present generation. -/
theorem not_applies_since_begins {i j k : Nat} {u : Ticket} (hi : r.Begins i t)
    (hj : ((r.state j).stage t).basis? (r.state j).proxy.generation =
      some (r.state j).proxy.generation) (hik : i ≤ k) (hkj : k < j) : ¬ r.Applies k u := by
  intro hk
  obtain ⟨i', -, hi', hg⟩ := exists_begins hj
  obtain rfl := begins_unique hi hi'
  -- the generation is the same at `i` and `j`, so it cannot have advanced at `k`
  have hstep := hk.generation
  have hbefore : (r.state i).proxy.generation ≤ (r.state k).proxy.generation :=
    generation_mono hik
  have hafter : (r.state (k + 1)).proxy.generation ≤ (r.state j).proxy.generation :=
    generation_mono hkj
  omega

end Run

end SharedProxy

end ServiceBinding
