import ServiceBinding.Proofs.SharedProxy.Move

/-!
# What every state of a run keeps

* **the line** — the tickets in it are those of the tasks that wait for a turn or have it, each once,
  and whoever makes an attempt is at its head;
* **generations as a clock** — every task that may still bind has a *basis*, the generation it relies
  on: the one in which it came, or for an attempt under way the present one. A basis is never ahead
  of the present generation (`Sound.basis_le`), and a step that starts a new generation leaves no task
  with the new one as its basis (`Sound.basis?_of_wake`);
* **fatal causes** — no task has the present generation as its basis when the proxy is unbound for
  good, so whoever waits finds itself overtaken;
* **numbers** — a binding that the proxy or a task knows is the only one of its number.

`Sound` collects these, and `Run.sound` gives them for every state of every run.
-/

namespace ServiceBinding

namespace Proxy

namespace Stage

/-- The generation a task has seen that has yet to take its turn to bind. -/
def observed? : Stage → Option Nat
  | .rebinding _ (.queued observed _) => some observed
  | .rechecking (.lookingUp observed _ _) => some observed
  | .rechecking (.queued observed _) => some observed
  | _ => none

/-- The generation a task relies on that may still bind, when the present one is `generation`. -/
def basis? (generation : Nat) (stage : Stage) : Option Nat :=
  if stage.isAttempt then some generation else stage.observed?

/-- The task has asked the registry and goes by its answer. -/
def hasAsked : Stage → Bool
  | .rebinding _ (.queued ..) => false
  | .rebinding .. => true
  | .rechecking _ => true
  | _ => false

/-- The binding that the task acts on when it goes on. -/
def bound? : Stage → Option Bound
  | .calling _ _ b => some b
  | .rechecking (.lookingUp _ (.bound b) _) => some b
  | _ => none

theorem basis?_of_isAttempt {stage : Stage} (h : stage.isAttempt = true) (g : Nat) :
    stage.basis? g = some g := by
  simp [basis?, h]

theorem basis?_of_not_isAttempt {stage : Stage} (h : stage.isAttempt = false) (g : Nat) :
    stage.basis? g = stage.observed? := by
  simp [basis?, h]

theorem isInLine_of_isAttempt {stage : Stage} (h : stage.isAttempt = true) :
    stage.isInLine = true := by
  unfold isAttempt at h
  split at h <;> first | rfl | cases h

theorem hasAsked_of_isAttempt {stage : Stage} (h : stage.isAttempt = true) :
    stage.hasAsked = true := by
  unfold isAttempt at h
  split at h <;> first | rfl | cases h

theorem isAttempt_of_isCallAttempt {stage : Stage} (h : stage.isCallAttempt = true) :
    stage.isAttempt = true := by
  unfold isCallAttempt at h
  split at h <;> first | rfl | cases h

end Stage

/-- Getting a binding, or an error in its place, leaves nothing to attempt. -/
theorem Request.resume_cases (q : Request) (r : Except InvocationError Bound) :
    (∃ result, q.resume r = .ended result) ∨
      ∃ site read b, q.resume r = .calling site read b ∧ r = .ok b := by
  cases q with
  | connect => exact .inl ⟨_, rfl⟩
  | call site read =>
    cases r with
    | ok b => exact .inr ⟨site, read, b, rfl, rfl⟩
    | error e => exact .inl ⟨_, rfl⟩

@[simp] theorem Request.resume_isInLine (q : Request) (r : Except InvocationError Bound) :
    (q.resume r).isInLine = false := by
  rcases q.resume_cases r with ⟨_, h⟩ | ⟨_, _, _, h, _⟩ <;> rw [h] <;> rfl

@[simp] theorem Request.resume_isCallAttempt (q : Request) (r : Except InvocationError Bound) :
    (q.resume r).isCallAttempt = false := by
  rcases q.resume_cases r with ⟨_, h⟩ | ⟨_, _, _, h, _⟩ <;> rw [h] <;> rfl

@[simp] theorem Request.resume_isAttempt (q : Request) (r : Except InvocationError Bound) :
    (q.resume r).isAttempt = false := by
  rcases q.resume_cases r with ⟨_, h⟩ | ⟨_, _, _, h, _⟩ <;> rw [h] <;> rfl

@[simp] theorem Request.resume_basis? (q : Request) (r : Except InvocationError Bound) (g : Nat) :
    (q.resume r).basis? g = none := by
  rcases q.resume_cases r with ⟨_, h⟩ | ⟨_, _, _, h, _⟩ <;> rw [h] <;> rfl

theorem Request.resume_bound? {q : Request} {r : Except InvocationError Bound} {b : Bound}
    (h : (q.resume r).bound? = some b) : r = .ok b := by
  rcases q.resume_cases r with ⟨_, hr⟩ | ⟨_, _, c, hr, rfl⟩ <;> rw [hr] at h
  · simp [Stage.bound?] at h
  · obtain rfl : c = b := by simpa [Stage.bound?] using h
    rfl

theorem hasTurn_iff {p : Proxy} {t : Ticket} : p.hasTurn t = true ↔ p.line.head? = some t := by
  simp [hasTurn]

theorem current_eq_ok {p : Proxy} {b : Bound} (h : p.current = .ok b) : p.connection = .bound b := by
  unfold current at h
  split at h <;> simp_all

/-! ## Moves, seen from one side -/

section

variable {p p' : Proxy} {now : Instant} {t : Ticket} {stage stage' : Stage} {signal : Signal}

/-- The line: a task keeps its place or its absence, joins at the end, or leaves. -/
theorem Move.line (m : Move p now t stage signal (p', stage')) :
    (p'.line = p.line ∧ stage'.isInLine = stage.isInLine ∧
        (stage'.isAttempt = true → stage.isAttempt = true ∨ p.hasTurn t = true)) ∨
      (p'.line = p.line ++ [t] ∧ stage.isInLine = false ∧ stage'.isInLine = true ∧
        stage'.isAttempt = false) ∨
      (p'.line = p.line.erase t ∧ stage'.isInLine = false) := by
  cases m with
  | served => exact .inl ⟨rfl, Request.resume_isInLine _ _, by simp⟩
  | callDropped | recheckRefused | recheckLookedUp | recheckEnded =>
    exact .inl ⟨rfl, rfl, nofun⟩
  | replied | recheckDisconnected => exact .inl ⟨by simp [concludeCall], rfl, nofun⟩
  | lookedUp ht | recheckPlanned ht => exact .inl ⟨rfl, rfl, fun _ => .inr ht⟩
  | planned => exact .inl ⟨rfl, rfl, fun _ => .inl rfl⟩
  | linedUp | recheckLinedUp => exact .inr (.inl ⟨rfl, rfl, rfl, rfl⟩)
  | overtaken | gaveUp => exact .inr (.inr ⟨rfl, by simp⟩)
  | concluded => exact .inr (.inr ⟨by simp, by simp⟩)
  | recheckConcluded => exact .inr (.inr ⟨by simp, rfl⟩)
  | recheckOvertaken | recheckKept | dropped => exact .inr (.inr ⟨rfl, rfl⟩)

/-- What a piece does to connection and generation: nothing, or it takes the binding down, or it
applies an attempt of a task that has asked the registry, relies on the present generation and has its
turn. -/
theorem Move.effect (m : Move p now t stage signal (p', stage')) :
    (p'.connection = p.connection ∧ p'.generation = p.generation) ∨
      (p.isBound = true ∧ p'.Mendable ∧ p'.generation = p.generation) ∨
      (stage.hasAsked = true ∧ stage.basis? p.generation = some p.generation ∧
        (stage.isAttempt = true ∨ p.hasTurn t = true) ∧
        ∃ r, p' = (p.apply now r).1.leaveLine t) := by
  cases m with
  | served | callDropped | recheckRefused | recheckLookedUp | recheckEnded | linedUp
  | recheckLinedUp | lookedUp | recheckPlanned | planned | overtaken | gaveUp | recheckOvertaken
  | recheckKept | dropped => exact .inl ⟨rfl, rfl⟩
  | concluded ha =>
    have hs := Stage.isAttempt_of_isCallAttempt ha
    exact .inr (.inr
      ⟨Stage.hasAsked_of_isAttempt hs, Stage.basis?_of_isAttempt hs _, .inl hs, _, rfl⟩)
  | recheckConcluded ha =>
    rcases ha with hs | ⟨ht, properties, rfl⟩
    · exact .inr (.inr
        ⟨Stage.hasAsked_of_isAttempt hs, Stage.basis?_of_isAttempt hs _, .inl hs, _, rfl⟩)
    · exact .inr (.inr ⟨rfl, rfl, .inr ht, _, rfl⟩)
  | recheckDisconnected =>
    rename_i b _ _
    rcases p.disconnect_connection b .noLiveProvider "provider no longer registered" with
      h | ⟨c, hc, -, h⟩
    · exact .inl ⟨h, by simp⟩
    · exact .inr (.inl ⟨isBound_iff.mpr ⟨c, hc⟩, ⟨_, _, h⟩, by simp⟩)
  | replied =>
    rename_i site read b result
    rcases p.observe_connection b (result.mapError fun e => InvocationError.ofCommand p.service e)
      with h | ⟨_, c, _, _, _, _, hc, -, h⟩
    · exact .inl ⟨h, by simp [concludeCall]⟩
    · exact .inr (.inl ⟨isBound_iff.mpr ⟨c, hc⟩, ⟨_, _, h⟩, by simp [concludeCall]⟩)

theorem Move.generation_le (m : Move p now t stage signal (p', stage')) :
    p.generation ≤ p'.generation := by
  rcases m.effect with ⟨-, hg⟩ | ⟨-, -, hg⟩ | ⟨-, -, -, r, rfl⟩
  · omega
  · omega
  · simp

/-- A binding of the proxy is kept, or made by the attempt that is applied. -/
theorem Move.connection (m : Move p now t stage signal (p', stage')) {b : Bound}
    (h : p'.connection = .bound b) :
    p.connection = .bound b ∨ b.number = p.generation ∧ p'.generation = p.generation + 1 := by
  rcases m.effect with ⟨hc, -⟩ | ⟨-, ⟨_, _, hc⟩, -⟩ | ⟨-, -, -, r, rfl⟩
  · exact .inl (hc ▸ h)
  · rw [h] at hc
    cases hc
  · exact .inr ⟨number_of_apply_bound h, by simp⟩

/-- A task gets a basis when it begins, with a proxy that can be bound, and then keeps it. -/
theorem Move.basis? (m : Move p now t stage signal (p', stage')) {g : Nat}
    (h : stage'.basis? p'.generation = some g) :
    p'.generation = p.generation ∧
      (stage.basis? p.generation = some g ∨
        stage = .unstarted ∧ ¬ p.Fatal ∧ g = p.generation) := by
  cases m with
  | served | overtaken | concluded | gaveUp => simp at h
  | callDropped | recheckRefused | recheckEnded | recheckDisconnected | recheckOvertaken
  | recheckConcluded | recheckKept | dropped | replied => cases h
  | linedUp hm => exact ⟨rfl, .inr ⟨rfl, hm.not_fatal, (Option.some.inj h).symm⟩⟩
  | recheckLookedUp hf => exact ⟨rfl, .inr ⟨rfl, hf, (Option.some.inj h).symm⟩⟩
  | lookedUp | planned | recheckLinedUp | recheckPlanned => exact ⟨rfl, .inl h⟩

/-- A caller begins an attempt in its turn, with an unbound proxy and nothing applied since it
came. -/
theorem Move.callAttempt (m : Move p now t stage signal (p', stage'))
    (h : stage'.isCallAttempt = true) :
    p'.connection = p.connection ∧
      (stage.isCallAttempt = true ∨
        p.isBound = false ∧ stage.basis? p.generation = some p.generation) := by
  cases m with
  | served | overtaken | concluded | gaveUp => simp at h
  | linedUp | callDropped | recheckRefused | recheckLookedUp | recheckEnded | recheckDisconnected
  | recheckLinedUp | recheckOvertaken | recheckPlanned | recheckConcluded | recheckKept | dropped
  | replied => cases h
  | lookedUp _ hu => exact ⟨rfl, .inr ⟨hu, rfl⟩⟩
  | planned => exact ⟨rfl, .inl rfl⟩

/-- A task learns of a binding from the proxy. -/
theorem Move.bound? (m : Move p now t stage signal (p', stage')) {b : Bound}
    (h : stage'.bound? = some b) : p.connection = .bound b ∨ p'.connection = .bound b := by
  cases m with
  | served | overtaken => exact .inl (current_eq_ok (Request.resume_bound? h))
  | concluded => exact .inr (apply_connection_of_ok (Request.resume_bound? h))
  | gaveUp => exact absurd (Request.resume_bound? h) nofun
  | recheckLookedUp =>
    left
    cases hc : p.connection with
    | bound c =>
      obtain rfl : c = b := by simpa [Stage.bound?, hc] using h
      rfl
    | unbound => simp [Stage.bound?, hc] at h
  | linedUp | lookedUp | planned | replied | callDropped | recheckRefused | recheckEnded
  | recheckDisconnected | recheckLinedUp | recheckOvertaken | recheckPlanned | recheckConcluded
  | recheckKept | dropped => simp [Stage.bound?] at h

end

end Proxy

namespace SharedProxy

open Proxy

/-! ## Steps -/

/-- A step passes time, or lets one task make a move and touches the stage of no other. -/
theorem step_cases {s s' : SharedProxy} {e : Event} (h : s.step e = some s') :
    (∃ d, e = .pass d ∧ s' = { s with now := s.now + d }) ∨
      ∃ t signal, e = .wake t signal ∧
        Move s.proxy s.now t (s.stage t) signal (s'.proxy, s'.stage t) ∧
        (∀ u, u ≠ t → s'.stage u = s.stage u) ∧ s'.now = s.now := by
  cases e with
  | pass d => exact .inl ⟨d, rfl, (Option.some.inj h).symm⟩
  | wake t signal =>
    obtain ⟨⟨p, stage⟩, hn, rfl⟩ := Option.map_eq_some_iff.mp h
    refine .inr ⟨t, signal, rfl, ?_, fun u hu => Function.update_of_ne hu _ _, rfl⟩
    simpa using advance_move hn

theorem descriptor_of_step {s s' : SharedProxy} {e : Event} (h : s.step e = some s') :
    s'.proxy.descriptor = s.proxy.descriptor := by
  cases e with
  | pass d =>
    obtain rfl := Option.some.inj h
    rfl
  | wake t signal =>
    obtain ⟨next, hnext, rfl⟩ := Option.map_eq_some_iff.1 h
    exact (Proxy.advance_move hnext).descriptor

theorem stage_of_wake {s s' : SharedProxy} {t u : Ticket} {signal : Signal}
    (h : s.step (.wake t signal) = some s') (hu : u ≠ t) : s'.stage u = s.stage u := by
  obtain ⟨next, hnext, rfl⟩ := Option.map_eq_some_iff.1 h
  exact Function.update_of_ne hu _ _

/-- Nothing wakes a task that is over. -/
theorem not_ended_of_wake {s s' : SharedProxy} {t : Ticket} {signal : Signal}
    (h : s.step (.wake t signal) = some s') (result : Option (Except InvocationError Json.Value)) :
    s.stage t ≠ .ended result := by
  intro hended
  obtain ⟨next, hnext, -⟩ := Option.map_eq_some_iff.1 h
  rw [hended] at hnext
  cases signal <;> cases hnext

/-- A caller comes once. -/
theorem unstarted_of_request {s s' : SharedProxy} {t : Ticket} {q : Request}
    (h : s.step (.wake t (.request q)) = some s') : s.stage t = .unstarted := by
  obtain ⟨⟨p, stage⟩, hn, -⟩ := Option.map_eq_some_iff.mp h
  cases hs : s.stage t with
  | unstarted => rfl
  | rebinding q position => cases position <;> simp [hs, advance, advanceRebind] at hn
  | calling site read b => simp [hs, advance] at hn
  | rechecking position => cases position <;> simp [hs, advance, advanceRecheck] at hn
  | ended result => simp [hs, advance] at hn

/-- What a caller meets when it comes is said by `Proxy.enter`. -/
theorem step_request {s s' : SharedProxy} {t : Ticket} {q : Request}
    (h : s.step (.wake t (.request q)) = some s') :
    (s'.proxy, s'.stage t) = q.follow (s.proxy.enter s.now t) := by
  have hs := unstarted_of_request h
  obtain ⟨⟨p, stage⟩, hn, rfl⟩ := Option.map_eq_some_iff.mp h
  have hstage : (p, stage) = q.follow (s.proxy.enter s.now t) := by
    simpa [hs, advance] using hn.symm
  simpa using hstage

/-- A binding that the proxy or a task knows. -/
def Knows (s : SharedProxy) (b : Bound) : Prop :=
  s.proxy.connection = .bound b ∨ ∃ t, (s.stage t).bound? = some b

/-- The invariant of runs. -/
structure Sound (s : SharedProxy) : Prop where
  line_nodup : s.proxy.line.Nodup
  mem_line : ∀ t, t ∈ s.proxy.line ↔ (s.stage t).isInLine = true
  head : ∀ t, (s.stage t).isAttempt = true → s.proxy.line.head? = some t
  basis_le : ∀ t g, (s.stage t).basis? s.proxy.generation = some g → g ≤ s.proxy.generation
  /-- Nobody relies on a generation in which the proxy can no longer be bound. -/
  fatal : s.proxy.Fatal → ∀ t, (s.stage t).basis? s.proxy.generation ≠ some s.proxy.generation
  /-- While a caller makes an attempt the proxy stays unbound. -/
  mendable : ∀ t, (s.stage t).isCallAttempt = true → s.proxy.Mendable
  number_lt : ∀ b, s.Knows b → b.number < s.proxy.generation
  number_inj : ∀ b c, s.Knows b → s.Knows c → b.number = c.number → b = c

theorem new_sound (descriptor : ApiDescriptor) (settings : ProxySettings) (now : Instant) :
    Sound (new descriptor settings now) where
  line_nodup := List.nodup_nil
  mem_line t := ⟨nofun, nofun⟩
  head t := nofun
  basis_le t g := nofun
  fatal _ t := nofun
  mendable t := nofun
  number_lt b := by rintro (h | ⟨t, h⟩) <;> cases h
  number_inj b c := by rintro (h | ⟨t, h⟩) <;> cases h

namespace Sound

variable {s s' : SharedProxy} {t : Ticket} {signal : Signal}

/-- Two tasks do not have their turn at a time. -/
theorem turn_unique (hs : Sound s) {u : Ticket} (hu : (s.stage u).isAttempt = true)
    (ht : (s.stage t).isAttempt = true ∨ s.proxy.hasTurn t = true) : u = t := by
  have hhead := hs.head u hu
  have hhead' : s.proxy.line.head? = some t := by
    rcases ht with ht | ht
    · exact hs.head t ht
    · exact hasTurn_iff.mp ht
  exact Option.some.inj (hhead.symm.trans hhead')

section Wake

variable (hs : Sound s)
  (hm : Move s.proxy s.now t (s.stage t) signal (s'.proxy, s'.stage t))
  (ho : ∀ u, u ≠ t → s'.stage u = s.stage u)

include hs hm ho

/-- A step that starts a generation leaves no basis of another task that moves with it. -/
theorem basis?_of_wake {u : Ticket} {g : Nat}
    (h : (s'.stage u).basis? s'.proxy.generation = some g) :
    (s.stage u).basis? s.proxy.generation = some g ∨
      u = t ∧ s.stage t = .unstarted ∧ ¬ s.proxy.Fatal ∧ g = s.proxy.generation ∧
        s'.proxy.generation = s.proxy.generation := by
  by_cases hu : u = t
  · subst hu
    obtain ⟨hg, h | ⟨hst, hf, rfl⟩⟩ := hm.basis? h
    · exact .inl h
    · exact .inr ⟨rfl, hst, hf, rfl, hg⟩
  · left
    rw [ho u hu] at h
    cases ha : (s.stage u).isAttempt with
    | false => rwa [Stage.basis?_of_not_isAttempt ha] at h ⊢
    | true =>
      -- the basis of an attempt moves with the generation, but then the turn is the attempt's
      rcases hm.effect with ⟨-, hg⟩ | ⟨-, -, hg⟩ | ⟨-, -, ht, -⟩
      · rwa [hg] at h
      · rwa [hg] at h
      · exact absurd (hs.turn_unique ha ht) hu

theorem line_of_wake :
    s'.proxy.line.Nodup ∧ (∀ u, u ∈ s'.proxy.line ↔ (s'.stage u).isInLine = true) ∧
      ∀ u, (s'.stage u).isAttempt = true → s'.proxy.line.head? = some u := by
  have hmem {u} (hu : u ≠ t) : u ∈ s.proxy.line ↔ (s'.stage u).isInLine = true := by
    rw [ho u hu]
    exact hs.mem_line u
  have hhead {u} (hu : u ≠ t) (ha : (s'.stage u).isAttempt = true) :
      s.proxy.line.head? = some u := by
    rw [ho u hu] at ha
    exact hs.head u ha
  rcases hm.line with ⟨hl, hi, ha⟩ | ⟨hl, hi, hi', ha⟩ | ⟨hl, hi⟩
  -- the line stays as it is
  · refine ⟨hl ▸ hs.line_nodup, fun u => ?_, fun u hu => ?_⟩
    · rw [hl]
      by_cases hu : u = t
      · rw [hu, hi, hs.mem_line]
      · exact hmem hu
    · rw [hl]
      by_cases hut : u = t
      · subst hut
        rcases ha hu with hat | hat
        · exact hs.head u hat
        · exact hasTurn_iff.mp hat
      · exact hhead hut hu
  -- the task joins at the end
  · have hnot : t ∉ s.proxy.line := by simp [hs.mem_line, hi]
    refine ⟨?_, fun u => ?_, fun u hu => ?_⟩
    · rw [hl]
      exact List.nodup_append.mpr ⟨hs.line_nodup, by simp, by
        rintro a hm b hb rfl
        exact hnot (List.mem_singleton.mp hb ▸ hm)⟩
    · rw [hl]
      by_cases hu : u = t
      · simp [hu, hi']
      · simpa [hu] using hmem hu
    · have hut : u ≠ t := by
        rintro rfl
        rw [ha] at hu
        cases hu
      rw [hl, List.head?_append, hhead hut hu]
      rfl
  -- the task leaves; whoever makes an attempt is another one, and stays at the head
  · refine ⟨hl ▸ hs.line_nodup.erase t, fun u => ?_, fun u hu => ?_⟩
    · rw [hl, hs.line_nodup.mem_erase_iff]
      by_cases hu : u = t
      · simp [hu, hi]
      · simpa [hu] using hmem hu
    · have hut : u ≠ t := by
        rintro rfl
        have := Stage.isInLine_of_isAttempt hu
        rw [hi] at this
        cases this
      obtain ⟨rest, hr⟩ := List.head?_eq_some_iff.mp (hhead hut hu)
      rw [hl, hr, List.erase_cons_tail (by simpa using hut)]
      rfl

theorem basis_le_of_wake {u : Ticket} {g : Nat}
    (h : (s'.stage u).basis? s'.proxy.generation = some g) : g ≤ s'.proxy.generation := by
  have hle := hm.generation_le
  rcases hs.basis?_of_wake hm ho h with h | ⟨-, -, -, rfl, -⟩
  · have := hs.basis_le u g h
    omega
  · exact hle

theorem fatal_of_wake (hf : s'.proxy.Fatal) (u : Ticket) :
    (s'.stage u).basis? s'.proxy.generation ≠ some s'.proxy.generation := by
  intro h
  rcases hm.effect with ⟨hc, hg⟩ | ⟨-, hmend, -⟩ | ⟨-, -, -, r, hp⟩
  · have hf₀ : s.proxy.Fatal := hf.congr hc.symm
    rcases hs.basis?_of_wake hm ho h with h | ⟨-, -, hnf, -⟩
    · rw [hg] at h
      exact hs.fatal hf₀ u h
    · exact hnf hf₀
  · exact hmend.not_fatal hf
  · -- the attempt that found the cause has started a generation nobody has seen
    have hg : s'.proxy.generation = s.proxy.generation + 1 := by simp [hp]
    rcases hs.basis?_of_wake hm ho h with h | ⟨-, -, -, -, hg'⟩
    · have := hs.basis_le u _ h
      omega
    · omega

theorem mendable_of_wake {u : Ticket} (h : (s'.stage u).isCallAttempt = true) :
    s'.proxy.Mendable := by
  by_cases hu : u = t
  · subst hu
    obtain ⟨hc, h₀ | ⟨hub, hb⟩⟩ := hm.callAttempt h
    · exact (hs.mendable u h₀).congr hc
    · exact (mendable_of_not_fatal hub fun hf => hs.fatal hf u hb).congr hc
  · rw [ho u hu] at h
    have hmend := hs.mendable u h
    -- no other task has its turn while `u` makes an attempt
    rcases hm.effect with ⟨hc, -⟩ | ⟨hb, -, -⟩ | ⟨-, -, ht, -⟩
    · exact hmend.congr hc
    · rw [hmend.isBound] at hb
      cases hb
    · exact absurd (hs.turn_unique (Stage.isAttempt_of_isCallAttempt h) ht) hu

omit hs in
theorem knows_of_wake {b : Bound} (h : s'.Knows b) :
    s.Knows b ∨ s'.proxy.connection = .bound b ∧ b.number = s.proxy.generation ∧
      s'.proxy.generation = s.proxy.generation + 1 := by
  have hconn (h : s'.proxy.connection = .bound b) :
      s.Knows b ∨ s'.proxy.connection = .bound b ∧ b.number = s.proxy.generation ∧
        s'.proxy.generation = s.proxy.generation + 1 := by
    rcases hm.connection h with h₀ | h₀
    · exact .inl (.inl h₀)
    · exact .inr ⟨h, h₀⟩
  rcases h with h | ⟨u, h⟩
  · exact hconn h
  · by_cases hu : u = t
    · subst hu
      rcases hm.bound? h with h₀ | h₀
      · exact .inl (.inl h₀)
      · exact hconn h₀
    · rw [ho u hu] at h
      exact .inl (.inr ⟨u, h⟩)

theorem wake : Sound s' where
  line_nodup := (hs.line_of_wake hm ho).1
  mem_line := (hs.line_of_wake hm ho).2.1
  head := (hs.line_of_wake hm ho).2.2
  basis_le _ _ := hs.basis_le_of_wake hm ho
  fatal := hs.fatal_of_wake hm ho
  mendable _ := hs.mendable_of_wake hm ho
  number_lt b h := by
    have hle := hm.generation_le
    rcases knows_of_wake hm ho h with h | ⟨-, hn, hg⟩
    · have := hs.number_lt b h
      omega
    · omega
  number_inj b c hb hc hn := by
    -- a binding that is new has a number that no binding had before
    rcases knows_of_wake hm ho hb with hb | ⟨hb, hbn, -⟩ <;>
      rcases knows_of_wake hm ho hc with hc | ⟨hc, hcn, -⟩
    · exact hs.number_inj b c hb hc hn
    · have := hs.number_lt b hb
      omega
    · have := hs.number_lt c hc
      omega
    · exact Connection.bound.inj (hb.symm.trans hc)

end Wake

theorem step (hs : Sound s) {e : Event} (h : s.step e = some s') : Sound s' := by
  rcases step_cases h with ⟨d, -, rfl⟩ | ⟨t, signal, -, hm, ho, -⟩
  · exact ⟨hs.1, hs.2, hs.3, hs.4, hs.5, hs.6, hs.7, hs.8⟩
  · exact hs.wake hm ho

end Sound

/-- Every state of every run satisfies the invariant. -/
theorem Run.sound (r : Run) (n : Nat) : Sound (r.state n) := by
  induction n with
  | zero =>
    obtain ⟨descriptor, settings, now, h⟩ := r.starts
    exact h ▸ new_sound descriptor settings now
  | succ n ih => exact ih.step (r.steps n)

end SharedProxy

end ServiceBinding
