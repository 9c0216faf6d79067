import Mathlib.Data.Set.Card
import Mathlib.Order.CompletePartialOrder
import ServiceBinding.Bulkhead

/-!
# Who has the places of a bulkhead

A bulkhead counts its calls but does not know them. `Bulkhead.Occupied` says that its counts and its
line are those of three sets of calls: those let in that have not lined up, those in line for a slot,
and those that run. Whatever a call does moves it from one set to the next, or out, and keeps the
relation; so the bounds of a bulkhead are facts of the sets (`Occupied.active_le`,
`Occupied.active_add_waiting`).

The running calls are among the first of the line, as many as there are slots. A call that leaves the
line brings the others forward and none back, so a call keeps its slot while it runs.
-/

namespace ServiceBinding

namespace Bulkhead

/-! ## Lines -/

/-- Whoever is among the first stays there if another one leaves. -/
theorem mem_take_erase {line : List Ticket} {t u : Ticket} {n : Nat} (hne : u ≠ t)
    (h : u ∈ line.take n) : u ∈ (line.erase t).take n := by
  induction line generalizing n with
  | nil => simp at h
  | cons a rest ih =>
    cases n with
    | zero => simp at h
    | succ n =>
      rw [List.take_succ_cons, List.mem_cons] at h
      by_cases ha : a = t
      · subst ha
        rw [List.erase_cons_head]
        have hu : u ∈ rest.take n := h.resolve_left hne
        exact List.take_subset_take_left rest (Nat.le_succ n) hu
      · rw [List.erase_cons_tail (by simpa using ha), List.take_succ_cons, List.mem_cons]
        exact h.imp_right fun hu => ih hu

theorem mem_take_append {line : List Ticket} {u : Ticket} {n : Nat} (h : u ∈ line.take n)
    (t : Ticket) : u ∈ (line ++ [t]).take n := by
  rw [List.take_append]
  exact List.mem_append_left _ h

/-! ## Letting calls in -/

variable {b : Bulkhead}

theorem tryEnter_of_room (h : b.held < b.coreSize + b.queueSize) :
    b.tryEnter = ({ b with held := b.held + 1, waiting := b.waiting + 1,
                           totalCalls := b.totalCalls + 1 }, true) := by
  rw [tryEnter]
  exact if_pos h

theorem tryEnter_of_full (h : ¬ b.held < b.coreSize + b.queueSize) :
    b.tryEnter = ({ b with totalCalls := b.totalCalls + 1,
                           totalRejections := b.totalRejections + 1 }, false) := by
  rw [tryEnter]
  exact if_neg h

theorem tryEnter_iff : b.tryEnter.2 = true ↔ b.held < b.coreSize + b.queueSize := by
  by_cases h : b.held < b.coreSize + b.queueSize
  · simp [tryEnter_of_room h, h]
  · simp [tryEnter_of_full h, h]

/-- The bulkhead after `n` calls have asked to be let in, one after the other. -/
def afterCalls (b : Bulkhead) : Nat → Bulkhead
  | 0 => b
  | n + 1 => (b.afterCalls n).tryEnter.1

theorem afterCalls_of_room (n : Nat) (h : b.held + n ≤ b.coreSize + b.queueSize) :
    (b.afterCalls n).held = b.held + n ∧ (b.afterCalls n).coreSize = b.coreSize ∧
      (b.afterCalls n).queueSize = b.queueSize := by
  induction n with
  | zero => exact ⟨rfl, rfl, rfl⟩
  | succ n ih =>
    obtain ⟨hheld, hcore, hqueue⟩ := ih (by omega)
    have hroom : (b.afterCalls n).held < (b.afterCalls n).coreSize + (b.afterCalls n).queueSize := by
      omega
    simp only [afterCalls, tryEnter_of_room hroom]
    omega

/-- An empty bulkhead lets in as many calls as it has places. -/
theorem lets_in_iff_of_empty (h : b.held = 0) (n : Nat) :
    (∀ k < n, (b.afterCalls k).tryEnter.2 = true) ↔ n ≤ b.coreSize + b.queueSize := by
  constructor
  · intro hall
    by_contra hlt
    have hfull := hall (b.coreSize + b.queueSize) (by omega)
    have hcalls := afterCalls_of_room (b := b) (b.coreSize + b.queueSize) (by omega)
    rw [tryEnter_iff] at hfull
    omega
  · intro hn k hk
    have hcalls := afterCalls_of_room (b := b) k (by omega)
    rw [tryEnter_iff]
    omega

/-! ## Occupied places -/

/-- The places of the bulkhead are those of the calls in the three sets. -/
structure Occupied (b : Bulkhead) (idle queued running : Set Ticket) : Prop where
  nodup : b.line.Nodup
  mem_line : ∀ t, t ∈ b.line ↔ t ∈ queued ∨ t ∈ running
  front : ∀ t ∈ running, t ∈ b.line.take b.coreSize
  apart : Disjoint queued running
  idle_finite : idle.Finite
  idle_apart : ∀ t ∈ idle, t ∉ b.line
  held : b.held = idle.ncard + b.line.length
  held_le : b.held ≤ b.coreSize + b.queueSize
  active : b.active = running.ncard
  waiting : b.waiting = idle.ncard + queued.ncard

namespace Occupied

theorem new (name : String) (coreSize queueSize : Nat) :
    (Bulkhead.new name coreSize queueSize).Occupied ∅ ∅ ∅ where
  nodup := .nil
  mem_line := by simp [Bulkhead.new]
  front := by simp
  apart := by simp
  idle_finite := Set.finite_empty
  idle_apart := by simp
  held := by simp [Bulkhead.new]
  held_le := Nat.zero_le _
  active := by simp [Bulkhead.new]
  waiting := by simp [Bulkhead.new]

variable {idle queued running : Set Ticket} {t : Ticket}

theorem congr {idle' queued' running' : Set Ticket} (h : b.Occupied idle queued running)
    (hi : idle' = idle) (hq : queued' = queued) (hr : running' = running) :
    b.Occupied idle' queued' running' := by
  subst hi hq hr
  exact h

theorem line_eq (h : b.Occupied idle queued running) : {t | t ∈ b.line} = queued ∪ running :=
  Set.ext h.mem_line

theorem queued_finite (h : b.Occupied idle queued running) : queued.Finite :=
  (List.finite_toSet b.line).subset fun t ht => (h.mem_line t).mpr (.inl ht)

theorem running_finite (h : b.Occupied idle queued running) : running.Finite :=
  (List.finite_toSet b.line).subset fun t ht => (h.mem_line t).mpr (.inr ht)

theorem ncard_setOf_mem {line : List Ticket} (h : line.Nodup) :
    {t | t ∈ line}.ncard = line.length := by
  have hcoe : {t | t ∈ line} = (line.toFinset : Set Ticket) := by
    ext t
    simp
  rw [hcoe, Set.ncard_coe_finset, List.toFinset_card_of_nodup h]

theorem length_line (h : b.Occupied idle queued running) :
    b.line.length = queued.ncard + running.ncard := by
  rw [← ncard_setOf_mem h.nodup, h.line_eq,
    Set.ncard_union_eq h.apart h.queued_finite h.running_finite]

/-- As many calls run as there are slots, at most. -/
theorem active_le (h : b.Occupied idle queued running) : b.active ≤ b.coreSize := by
  have hfront : running ⊆ {t | t ∈ b.line.take b.coreSize} := h.front
  have htake : (b.line.take b.coreSize).Nodup := h.nodup.sublist (List.take_sublist _ _)
  calc b.active = running.ncard := h.active
    _ ≤ {t | t ∈ b.line.take b.coreSize}.ncard :=
      Set.ncard_le_ncard hfront (List.finite_toSet _)
    _ = (b.line.take b.coreSize).length := ncard_setOf_mem htake
    _ ≤ b.coreSize := List.length_take_le _ _

/-- Every call let in either runs or waits. -/
theorem active_add_waiting (h : b.Occupied idle queued running) :
    b.active + b.waiting = b.held := by
  rw [h.active, h.waiting, h.held, h.length_line]
  omega

/-! ### What calls do -/

theorem refuse (h : b.Occupied idle queued running) (hfull : ¬ b.held < b.coreSize + b.queueSize) :
    b.tryEnter.1.Occupied idle queued running := by
  rw [tryEnter_of_full hfull]
  exact { h with }

theorem enter (h : b.Occupied idle queued running) (hroom : b.held < b.coreSize + b.queueSize)
    (hidle : t ∉ idle) (hline : t ∉ b.line) :
    b.tryEnter.1.Occupied (insert t idle) queued running := by
  have hcard := Set.ncard_insert_of_notMem hidle h.idle_finite
  have hheld := h.held
  have hwaiting := h.waiting
  rw [tryEnter_of_room hroom]
  refine { h with
    idle_finite := h.idle_finite.insert t
    idle_apart := ?_
    held := ?_
    held_le := hroom
    waiting := ?_ }
  · intro u hu
    rcases hu with rfl | hu
    · exact hline
    · exact h.idle_apart u hu
  · simp only
    omega
  · simp only
    omega

theorem lineUp (h : b.Occupied idle queued running) (ht : t ∈ idle) :
    (b.lineUp t).Occupied (idle \ {t}) (insert t queued) running := by
  have hline : t ∉ b.line := h.idle_apart t ht
  have hq : t ∉ queued := fun hq => hline ((h.mem_line t).mpr (.inl hq))
  have hr : t ∉ running := fun hr => hline ((h.mem_line t).mpr (.inr hr))
  have hidle := Set.ncard_sdiff_singleton_add_one ht h.idle_finite
  have hqueued := Set.ncard_insert_of_notMem hq h.queued_finite
  have hheld := h.held
  have hwaiting := h.waiting
  constructor
  · refine List.nodup_append.mpr ⟨h.nodup, List.nodup_singleton t, ?_⟩
    intro u hu v hv huv
    rw [huv, List.mem_singleton.mp hv] at hu
    exact hline hu
  · intro u
    simp only [Bulkhead.lineUp, List.mem_append, List.mem_singleton, h.mem_line, Set.mem_insert_iff]
    tauto
  · intro u hu
    exact mem_take_append (h.front u hu) t
  · exact Set.disjoint_insert_left.mpr ⟨hr, h.apart⟩
  · exact h.idle_finite.sdiff
  · intro u hu hmem
    rcases List.mem_append.mp hmem with hmem | hmem
    · exact h.idle_apart u hu.1 hmem
    · exact hu.2 (List.mem_singleton.mp hmem)
  · simp only [Bulkhead.lineUp, List.length_append, List.length_singleton]
    omega
  · exact h.held_le
  · exact h.active
  · simp only [Bulkhead.lineUp]
    omega

theorem start (h : b.Occupied idle queued running) (ht : t ∈ queued)
    (hturn : t ∈ b.line.take b.coreSize) :
    b.start.Occupied idle (queued \ {t}) (insert t running) := by
  have hr : t ∉ running := Set.disjoint_left.mp h.apart ht
  have hqueued := Set.ncard_sdiff_singleton_add_one ht h.queued_finite
  have hrunning := Set.ncard_insert_of_notMem hr h.running_finite
  have hactive := h.active
  have hwaiting := h.waiting
  refine { h with
    mem_line := ?_
    front := ?_
    apart := ?_
    active := ?_
    waiting := ?_ }
  · intro u
    rw [Bulkhead.start, h.mem_line, Set.mem_insert_iff, Set.mem_sdiff, Set.mem_singleton_iff]
    by_cases hu : u = t
    · simp [hu, ht]
    · simp [hu]
  · intro u hu
    rcases hu with rfl | hu
    · exact hturn
    · exact h.front u hu
  · rw [Set.disjoint_insert_right]
    exact ⟨fun hmem => hmem.2 rfl, h.apart.mono_left Set.sdiff_subset⟩
  · simp only [Bulkhead.start]
    omega
  · simp only [Bulkhead.start]
    omega

theorem leave (h : b.Occupied idle queued running) (ht : t ∈ idle) :
    b.leave.Occupied (idle \ {t}) queued running := by
  have hidle := Set.ncard_sdiff_singleton_add_one ht h.idle_finite
  have hheld := h.held
  have hle := h.held_le
  have hwaiting := h.waiting
  refine { h with
    idle_finite := h.idle_finite.sdiff
    idle_apart := fun u hu => h.idle_apart u hu.1
    held := ?_
    held_le := ?_
    waiting := ?_ }
  all_goals
    simp only [Bulkhead.leave]
    omega

/-- A call leaves the line, whether it waits there or runs. -/
theorem mem_erase (h : b.Occupied idle queued running) {queued' running' : Set Ticket}
    (hq : queued' = queued \ {t}) (hr : running' = running \ {t}) (u : Ticket) :
    u ∈ b.line.erase t ↔ u ∈ queued' ∨ u ∈ running' := by
  rw [h.nodup.mem_erase_iff, h.mem_line, hq, hr]
  simp only [Set.mem_sdiff, Set.mem_singleton_iff]
  tauto

theorem giveUp (h : b.Occupied idle queued running) (ht : t ∈ queued) :
    (b.giveUp t).Occupied idle (queued \ {t}) running := by
  have hline : t ∈ b.line := (h.mem_line t).mpr (.inl ht)
  have hr : t ∉ running := Set.disjoint_left.mp h.apart ht
  have hqueued := Set.ncard_sdiff_singleton_add_one ht h.queued_finite
  have hlength := List.length_erase_of_mem hline
  have hpos := List.length_pos_of_mem hline
  have hheld := h.held
  have hle := h.held_le
  have hwaiting := h.waiting
  constructor
  · exact h.nodup.erase t
  · exact h.mem_erase rfl (Set.sdiff_singleton_eq_self hr).symm
  · intro u hu
    exact mem_take_erase (fun hut => hr (hut ▸ hu)) (h.front u hu)
  · exact h.apart.mono_left Set.sdiff_subset
  · exact h.idle_finite
  · intro u hu hmem
    exact h.idle_apart u hu (List.mem_of_mem_erase hmem)
  · simp only [Bulkhead.giveUp, Bulkhead.leave]
    omega
  · simp only [Bulkhead.giveUp, Bulkhead.leave]
    omega
  · exact h.active
  · simp only [Bulkhead.giveUp, Bulkhead.leave]
    omega

theorem finish (h : b.Occupied idle queued running) (ht : t ∈ running) :
    (b.finish t).Occupied idle queued (running \ {t}) := by
  have hline : t ∈ b.line := (h.mem_line t).mpr (.inr ht)
  have hq : t ∉ queued := Set.disjoint_right.mp h.apart ht
  have hrunning := Set.ncard_sdiff_singleton_add_one ht h.running_finite
  have hlength := List.length_erase_of_mem hline
  have hpos := List.length_pos_of_mem hline
  have hheld := h.held
  have hle := h.held_le
  have hactive := h.active
  constructor
  · exact h.nodup.erase t
  · exact h.mem_erase (Set.sdiff_singleton_eq_self hq).symm rfl
  · intro u hu
    exact mem_take_erase hu.2 (h.front u hu.1)
  · exact h.apart.mono_right Set.sdiff_subset
  · exact h.idle_finite
  · intro u hu hmem
    exact h.idle_apart u hu (List.mem_of_mem_erase hmem)
  · simp only [Bulkhead.finish]
    omega
  · simp only [Bulkhead.finish]
    omega
  · simp only [Bulkhead.finish]
    omega
  · exact h.waiting

end Occupied

end Bulkhead

end ServiceBinding
