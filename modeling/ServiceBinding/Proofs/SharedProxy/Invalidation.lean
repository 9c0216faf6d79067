import Mathlib.Data.Finset.Card
import ServiceBinding.Proofs.SharedProxy.Throttle

/-!
# For which failures a binding is given up

A proxy counts the calls in a row that did not reach the provider and takes its binding down when
their number comes to a limit. The count begins anew with a binding, and a call on the binding that
gets an answer, be it an error, ends it. So a binding is given up after a streak: a stretch of steps
through which it was in use, in which none of its calls was answered, and in which as many calls
failed as the limit says (`Run.Streak`).

There is one count for a proxy, whichever binding a call was dispatched on. A call on an earlier
binding that fails late is therefore part of the streak, though its provider is no longer in use.
-/

namespace ServiceBinding

namespace Proxy

/-! ## The count -/

/-- A failure to reach the provider that is no signal; it is counted. -/
def Counts (p : Proxy) (e : InvocationError) : Prop :=
  p.settings.signals.includes e = false ∧
    ∃ reason, e.reason? = some reason ∧ reason.isUnreachability = true

/-- A value, or an error that tells of no unavailability. -/
def Answered : Except InvocationError Json.Value → Prop
  | .ok _ => True
  | .error e => e.reason? = none

theorem disconnect_failures (p : Proxy) (b : Bound) (reason : UnavailableReason)
    (message : String) :
    (p.disconnect b reason message).failures = p.failures ∨
      (p.disconnect b reason message).failures = 0 := by
  unfold disconnect
  repeat' split
  · exact .inr rfl
  · exact .inl rfl
  · exact .inl rfl

theorem disconnect_of_bound {p : Proxy} {b : Bound} (h : p.connection = .bound b)
    (reason : UnavailableReason) (message : String) :
    (p.disconnect b reason message).isBound = false := by
  rw [disconnect_eq h]
  rfl

theorem apply_failures_le (p : Proxy) (now : Instant)
    (r : Except BindFailure (Binding × Option ApiDefinition)) :
    (p.apply now r).1.failures ≤ p.failures := by
  unfold apply
  split
  · exact Nat.zero_le _
  · exact Nat.le_refl _
  · exact Nat.le_refl _

/-- The count grows by one, with a failure that is counted, or it does not grow. -/
theorem observe_failures (p : Proxy) (b : Bound) (result : Except InvocationError Json.Value) :
    (p.observe b result).failures ≤ p.failures ∨
      ∃ e, result = .error e ∧ p.Counts e ∧ (p.observe b result).failures = p.failures + 1 := by
  cases result with
  | ok v => exact .inl (Nat.zero_le _)
  | error e =>
    simp only [observe]
    split
    · rcases p.disconnect_failures b (e.reason?.getD .targetGone) e.message with h | h
      · exact .inl (Nat.le_of_eq h)
      · exact .inl (by omega)
    · rename_i hs
      split
      · exact .inl (Nat.zero_le _)
      · rename_i reason hr
        split
        · rename_i hu
          have hcounts : p.Counts e := ⟨by simpa using hs, reason, hr, hu⟩
          split
          · rename_i limit hl
            split
            · rcases disconnect_failures { p with failures := p.failures + 1 } b reason
                  (toString (p.failures + 1) ++ " consecutive failures, last: " ++ e.message) with
                h | h
              · exact .inr ⟨e, rfl, hcounts, h⟩
              · exact .inl (by omega)
            · exact .inr ⟨e, rfl, hcounts, rfl⟩
          · exact .inr ⟨e, rfl, hcounts, rfl⟩
        · exact .inl (Nat.le_refl _)

/-- An answer on the binding in use ends the count, if it is no signal that ends the binding. -/
theorem observe_of_answered {p : Proxy} {b : Bound} (hb : p.connection = .bound b)
    {result : Except InvocationError Json.Value} (ha : Answered result) :
    (p.observe b result).failures = 0 ∨ (p.observe b result).isBound = false := by
  cases result with
  | ok v => exact .inl rfl
  | error e =>
    have hr : e.reason? = none := ha
    simp only [observe, hr]
    split
    · exact .inr (disconnect_of_bound hb _ _)
    · exact .inl rfl

section

variable {p p' : Proxy} {now : Instant} {t : Ticket} {stage stage' : Stage} {signal : Signal}

theorem Move.failures (m : Move p now t stage signal (p', stage')) :
    p'.failures ≤ p.failures ∨
      ∃ site read b answer e, stage = .calling site read b ∧ signal = .command answer ∧
        (p.concludeCall b answer).2 = .error e ∧ p.Counts e ∧ p'.failures = p.failures + 1 := by
  cases m with
  | concluded | recheckConcluded => exact .inl (apply_failures_le _ _ _)
  | recheckDisconnected =>
    rename_i b _ _
    rcases p.disconnect_failures b .noLiveProvider "provider no longer registered" with h | h
    · exact .inl (Nat.le_of_eq h)
    · exact .inl (by omega)
  | replied =>
    rename_i site read b answer
    rcases p.observe_failures b (answer.mapError fun e => InvocationError.ofCommand p.service e)
      with h | ⟨e, he, hc, h⟩
    · exact .inl h
    · exact .inr ⟨site, read, b, answer, e, rfl, rfl, he, hc, h⟩
  | _ => exact .inl (Nat.le_refl _)

/-- A binding begins with no failures. -/
theorem Move.failures_of_bound (m : Move p now t stage signal (p', stage')) {b : Bound}
    (hb : p'.connection = .bound b) (hn : p.connection ≠ .bound b) : p'.failures = 0 := by
  rcases m.effect with ⟨hc, -⟩ | ⟨-, ⟨_, _, hc⟩, -⟩ | ⟨-, -, -, r, rfl⟩
  · exact absurd (hc ▸ hb) hn
  · rw [hb] at hc
    cases hc
  · match r with
    | .ok (binding, versioning) => rfl
    | .error (.fatal e) => cases hb
    | .error (.transient reason message) => cases hb

theorem Move.replied_proxy {site : CallSite} {read : Json.Value → Option Json.Value} {b : Bound}
    {answer : Except (CommandError InvocationError) Json.Value}
    (m : Move p now t (.calling site read b) (.command answer) (p', stage')) :
    p' = (p.concludeCall b answer).1 := by
  cases m
  rfl

end

end Proxy

namespace SharedProxy

open Proxy

namespace Run

variable {r : Run} {b : Bound}

/-- In step `n` a call that was dispatched on `b` ends with `result`. -/
def Returns (r : Run) (n : Nat) (b : Bound) (result : Except InvocationError Json.Value) : Prop :=
  ∃ t site read answer, (r.state n).stage t = .calling site read b ∧
    r.event n = .wake t (.command answer) ∧ ((r.state n).proxy.concludeCall b answer).2 = result

/-- In step `n` a call that was dispatched on `b` ends with a failure that is counted. -/
def Misses (r : Run) (n : Nat) (b : Bound) : Prop :=
  ∃ e, r.Returns n b (.error e) ∧ (r.state n).proxy.Counts e

/-- In step `n` the proxy gives `b` up for the result of a call that is no signal. -/
def GivesUp (r : Run) (n : Nat) (b : Bound) : Prop :=
  (r.state n).proxy.connection = .bound b ∧ (r.state (n + 1)).proxy.isBound = false ∧
    ∃ c e, r.Returns n c (.error e) ∧ (r.state n).proxy.settings.signals.includes e = false

theorem Returns.proxy {n : Nat} {result : Except InvocationError Json.Value}
    (h : r.Returns n b result) :
    (r.state (n + 1)).proxy = (r.state n).proxy.observe b result := by
  obtain ⟨t, site, read, answer, hs, he, rfl⟩ := h
  rcases step_cases (r.steps n) with ⟨d, he', -⟩ | ⟨u, signal, he', hm, -, -⟩
  · rw [he] at he'
    cases he'
  · obtain ⟨rfl, rfl⟩ := Event.wake.inj (he.symm.trans he')
    rw [hs] at hm
    exact hm.replied_proxy

theorem Returns.knows {n : Nat} {result : Except InvocationError Json.Value}
    (h : r.Returns n b result) : (r.state n).Knows b := by
  obtain ⟨t, site, read, answer, hs, -, -⟩ := h
  exact .inr ⟨t, by rw [hs]; rfl⟩

theorem Misses.knows {n : Nat} (h : r.Misses n b) : (r.state n).Knows b := by
  obtain ⟨e, hr, -⟩ := h
  exact hr.knows

/-- One call ends in a step. -/
theorem Returns.unique {n : Nat} {c : Bound} {x y : Except InvocationError Json.Value}
    (hx : r.Returns n b x) (hy : r.Returns n c y) : x = y := by
  obtain ⟨t, site, read, answer, -, he, rfl⟩ := hx
  obtain ⟨t', site', read', answer', -, he', rfl⟩ := hy
  obtain ⟨-, hsignal⟩ := Event.wake.inj (he.symm.trans he')
  rw [Signal.command.inj hsignal]
  rfl

/-- The binding in use is the latest one that anybody knows. -/
theorem number_le_of_bound {n : Nat} (hb : (r.state n).proxy.connection = .bound b) {c : Bound}
    (hc : (r.state n).Knows c) : c.number ≤ b.number := by
  induction n with
  | zero =>
    obtain ⟨descriptor, settings, now, h⟩ := r.starts
    rw [h] at hb
    cases hb
  | succ n ih =>
    rcases step_cases (r.steps n) with ⟨d, -, h⟩ | ⟨t, signal, -, hm, ho, -⟩
    · rw [h] at hb hc
      exact ih hb hc
    · rcases Sound.knows_of_wake hm ho hc with hold | ⟨hnew, -, -⟩
      · rcases hm.connection hb with hkept | ⟨hn, -⟩
        · exact ih hkept hold
        · rw [hn]
          exact Nat.le_of_lt ((r.sound n).number_lt c hold)
      · rw [Connection.bound.inj (hnew.symm.trans hb)]

/-! ## Streaks -/

/-- From step `k` on `b` has been in use and none of its calls was answered, and the proxy has counted
no failure but those of that time. -/
structure Streak (r : Run) (b : Bound) (k n : Nat) : Prop where
  le : k ≤ n
  bound : ∀ m, k ≤ m → m ≤ n → (r.state m).proxy.connection = .bound b
  unanswered : ∀ m, k ≤ m → m < n → ∀ result, Answered result → ¬ r.Returns m b result
  counted : ∃ steps : Finset ℕ, (r.state n).proxy.failures ≤ steps.card ∧
    ∀ m ∈ steps, k ≤ m ∧ m < n ∧ ∃ c, r.Misses m c

theorem streak_self {n : Nat} (hb : (r.state n).proxy.connection = .bound b)
    (h0 : (r.state n).proxy.failures = 0) : r.Streak b n n where
  le := Nat.le_refl n
  bound m hnm hmn := by rwa [Nat.le_antisymm hmn hnm]
  unanswered m hnm hmn := by omega
  counted := ⟨∅, Nat.le_of_eq h0, by simp⟩

/-- In a step the count does not grow, or a failure is counted. -/
theorem failures_succ (r : Run) (n : Nat) :
    (r.state (n + 1)).proxy.failures ≤ (r.state n).proxy.failures ∨
      (∃ c, r.Misses n c) ∧
        (r.state (n + 1)).proxy.failures = (r.state n).proxy.failures + 1 := by
  rcases step_cases (r.steps n) with ⟨d, -, h⟩ | ⟨t, signal, he, hm, -, -⟩
  · exact .inl (by rw [h])
  · rcases hm.failures with h | ⟨site, read, c, answer, e, hs, rfl, hr, hc, h⟩
    · exact .inl h
    · exact .inr ⟨⟨c, e, ⟨t, site, read, answer, hs, he, hr⟩, hc⟩, h⟩

/-- A streak goes on while the binding is in use and the count is not ended. -/
theorem Streak.succ {k n : Nat} (h : r.Streak b k n)
    (hb : (r.state (n + 1)).proxy.connection = .bound b)
    (h0 : (r.state (n + 1)).proxy.failures ≠ 0) : r.Streak b k (n + 1) where
  le := Nat.le_succ_of_le h.le
  bound m hkm hmn := by
    rcases Nat.lt_or_eq_of_le hmn with hlt | rfl
    · exact h.bound m hkm (Nat.le_of_lt_succ hlt)
    · exact hb
  unanswered m hkm hmn result ha hr := by
    rcases Nat.lt_or_eq_of_le (Nat.le_of_lt_succ hmn) with hlt | rfl
    · exact h.unanswered m hkm hlt result ha hr
    · rcases observe_of_answered (h.bound m hkm (Nat.le_refl m)) ha with hf | hu
      · exact h0 (hr.proxy ▸ hf)
      · rw [← hr.proxy, isBound_iff.mpr ⟨b, hb⟩] at hu
        cases hu
  counted := by
    obtain ⟨steps, hcard, hsteps⟩ := h.counted
    have hold : ∀ m ∈ steps, k ≤ m ∧ m < n + 1 ∧ ∃ c, r.Misses m c := fun m hm =>
      have ⟨hkm, hmn, hc⟩ := hsteps m hm
      ⟨hkm, Nat.lt_succ_of_lt hmn, hc⟩
    rcases r.failures_succ n with hle | ⟨hmiss, hplus⟩
    · exact ⟨steps, Nat.le_trans hle hcard, hold⟩
    · have hnew : n ∉ steps := fun hn => absurd (hsteps n hn).2.1 (Nat.lt_irrefl n)
      refine ⟨insert n steps, ?_, fun m hm => ?_⟩
      · rw [Finset.card_insert_of_notMem hnew, hplus]
        exact Nat.add_le_add_right hcard 1
      · rcases Finset.mem_insert.mp hm with rfl | hm
        · exact ⟨h.le, Nat.lt_succ_self m, hmiss⟩
        · exact hold m hm

/-- The failures that a proxy has counted are those of a streak of its binding. -/
theorem exists_streak {n : Nat} (hb : (r.state n).proxy.connection = .bound b) :
    ∃ k, r.Streak b k n := by
  induction n with
  | zero =>
    obtain ⟨descriptor, settings, now, h⟩ := r.starts
    rw [h] at hb
    cases hb
  | succ n ih =>
    by_cases h0 : (r.state (n + 1)).proxy.failures = 0
    · exact ⟨n + 1, streak_self hb h0⟩
    by_cases hold : (r.state n).proxy.connection = .bound b
    · obtain ⟨k, hk⟩ := ih hold
      exact ⟨k, hk.succ hb h0⟩
    · refine absurd ?_ h0
      rcases step_cases (r.steps n) with ⟨d, -, h⟩ | ⟨t, signal, -, hm, -, -⟩
      · rw [h] at hb
        exact absurd hb hold
      · exact hm.failures_of_bound hb hold

/-- A binding is given up for a failure of one of its own calls that brings the count to the limit. -/
theorem GivesUp.reached {n : Nat} (h : r.GivesUp n b) {limit : Nat}
    (hl : (r.state n).proxy.settings.invalidateAfter = some limit) :
    r.Misses n b ∧ limit ≤ (r.state n).proxy.failures + 1 := by
  obtain ⟨hb, hu, c, e, hr, hs⟩ := h
  have hchanged : (r.state (n + 1)).proxy.connection ≠ (r.state n).proxy.connection := by
    intro hc
    rw [isBound_iff.mpr ⟨b, hc.trans hb⟩] at hu
    cases hu
  rcases (r.state n).proxy.observe_connection c (.error e) with
    hc | ⟨e', d, _, _, he, hdown, hd, hn, -⟩
  · rw [← hr.proxy] at hc
    exact absurd hc hchanged
  · obtain rfl := Except.error.inj he
    obtain rfl : b = d := Connection.bound.inj (hb.symm.trans hd)
    obtain rfl : c = b := (r.sound n).number_inj c b hr.knows (.inl hb) hn.symm
    cases hdown with
    | signal hsignal =>
      rw [hs] at hsignal
      cases hsignal
    | unreachable hreason hun hlimit hf =>
      obtain rfl := Option.some.inj (hl.symm.trans hlimit)
      exact ⟨⟨e, hr, hs, _, hreason, hun⟩, hf⟩

end Run

open Classical in
/-- A binding is given up only after a streak, through which it was in use and none of its calls was
answered, and in which calls failed to reach a provider as often as the limit says. They are calls on
the binding itself and, if any, calls on earlier bindings that fail late. -/
theorem given_up_after_streak (r : Run) {n : Nat} {b : Bound} {limit : Nat} (h : r.GivesUp n b)
    (hl : (r.state n).proxy.settings.invalidateAfter = some limit) :
    ∃ k ≤ n,
      (∀ m, k ≤ m → m ≤ n → (r.state m).proxy.connection = .bound b ∧
        ∀ result, Answered result → ¬ r.Returns m b result) ∧
      ∃ own late : Finset ℕ, limit ≤ own.card + late.card ∧
        (∀ m ∈ own, k ≤ m ∧ m ≤ n ∧ r.Misses m b) ∧
        ∀ m ∈ late, k ≤ m ∧ m < n ∧ ∃ c, c.number < b.number ∧ r.Misses m c := by
  obtain ⟨hmiss, hlimit⟩ := h.reached hl
  obtain ⟨k, hk⟩ := Run.exists_streak h.1
  obtain ⟨steps, hcard, hsteps⟩ := hk.counted
  refine ⟨k, hk.le, fun m hkm hmn => ⟨hk.bound m hkm hmn, fun result ha hr => ?_⟩,
    insert n (steps.filter (r.Misses · b)), steps.filter (¬ r.Misses · b), ?_, ?_, ?_⟩
  · rcases Nat.lt_or_eq_of_le hmn with hlt | rfl
    · exact hk.unanswered m hkm hlt result ha hr
    · obtain ⟨e, he, -, reason, hreason, -⟩ := hmiss
      rw [hr.unique he, Answered, hreason] at ha
      cases ha
  · have hnew : n ∉ steps.filter (r.Misses · b) := fun hn =>
      absurd (hsteps n (Finset.mem_of_mem_filter n hn)).2.1 (Nat.lt_irrefl n)
    have hsplit := steps.card_filter_add_card_filter_not (r.Misses · b)
    rw [Finset.card_insert_of_notMem hnew]
    omega
  · intro m hm
    rcases Finset.mem_insert.mp hm with rfl | hm
    · exact ⟨hk.le, Nat.le_refl m, hmiss⟩
    · obtain ⟨hmem, hmb⟩ := Finset.mem_filter.mp hm
      exact ⟨(hsteps m hmem).1, Nat.le_of_lt (hsteps m hmem).2.1, hmb⟩
  · intro m hm
    obtain ⟨hmem, hmb⟩ := Finset.mem_filter.mp hm
    obtain ⟨hkm, hmn, c, hc⟩ := hsteps m hmem
    have hbound := hk.bound m hkm (Nat.le_of_lt hmn)
    have hle := Run.number_le_of_bound hbound hc.knows
    refine ⟨hkm, hmn, c, Nat.lt_of_le_of_ne hle fun hn => hmb ?_, hc⟩
    rwa [← (r.sound m).number_inj c b hc.knows (.inl hbound) hn]

namespace Sample

/-- A failure to reach the provider. -/
def unreachable : Except (CommandError InvocationError) Json.Value :=
  .error (.execution (.unavailable ⟨"finder", .unreachable, "connection refused", none⟩))

def first : Bound := ⟨0, binding "one", none⟩

def second : Bound := ⟨1, binding "two", none⟩

/-- A call is on its way to one provider when a recheck binds the proxy to another. The call fails
late, and then one call on the new binding fails. -/
def lateRun : Run :=
  .ofEvents finder { invalidateAfter := some 2, signals := .never }
    (binds 0 (.call "here" some) "one" ++ rechecks 1 "two" ++
      [.wake 0 (.command unreachable), .wake 2 (.request (.call "here" some)),
        .wake 2 (.command unreachable)])
    rfl

theorem lateRun_givesUp : lateRun.GivesUp 10 second :=
  ⟨rfl, rfl, second, _, ⟨2, "here", some, unreachable, rfl, rfl, rfl⟩, rfl⟩

end Sample

theorem given_up_after_streak_lateRun :
    Sample.lateRun.GivesUp 10 Sample.second ∧
      ∃ k ≤ 10,
        (∀ m, k ≤ m → m ≤ 10 →
          (Sample.lateRun.state m).proxy.connection = .bound Sample.second ∧
            ∀ result, Answered result → ¬ Sample.lateRun.Returns m Sample.second result) ∧
        ∃ own late : Finset ℕ, 2 ≤ own.card + late.card ∧
          (∀ m ∈ own, k ≤ m ∧ m ≤ 10 ∧ Sample.lateRun.Misses m Sample.second) ∧
          ∀ m ∈ late, k ≤ m ∧ m < 10 ∧
            ∃ c, c.number < Sample.second.number ∧ Sample.lateRun.Misses m c :=
  ⟨Sample.lateRun_givesUp, given_up_after_streak Sample.lateRun Sample.lateRun_givesUp rfl⟩

/-- The late failure of a call on an earlier binding counts: a proxy that is to give a binding up
after two failures gives it up after one failure of its own. -/
theorem late_failure_counts :
    (Sample.lateRun.state 10).proxy.settings.invalidateAfter = some 2 ∧
      Sample.lateRun.GivesUp 10 Sample.second ∧ Sample.lateRun.Misses 8 Sample.first ∧
      ∀ m, Sample.lateRun.Misses m Sample.second → m = 10 := by
  refine ⟨rfl, Sample.lateRun_givesUp,
    ⟨_, ⟨0, "here", some, Sample.unreachable, rfl, rfl, rfl⟩, rfl, _, rfl, rfl⟩, fun m hm => ?_⟩
  obtain ⟨e, ⟨t, site, read, answer, hs, he, -⟩, -⟩ := hm
  match m with
  | 10 => rfl
  | 8 =>
    obtain rfl : 0 = t := (Event.wake.inj he).1
    cases hs
  | 0 | 1 | 2 | 3 | 4 | 5 | 6 | 7 | 9 => cases he
  | m + 11 => cases he

end SharedProxy

end ServiceBinding
