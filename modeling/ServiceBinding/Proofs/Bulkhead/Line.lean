import ServiceBinding.Proofs.Bulkhead.Settled

/-!
# Order in the line of a bulkhead

Two that are in line keep their order while the first of them waits (`Move.behind`). A request brings one
more to the front of the line at most (`Move.mem_take`), and whoever is behind one that is not in front does
not get there (`notMem_take_of_behind`).
-/

namespace ServiceBinding

namespace Bulkhead

/-- If another one leaves the line, whoever comes forward does so by one place. -/
theorem mem_take_of_mem_take_erase {line : List Ticket} {t u : Ticket} {n : Nat}
    (h : u ∈ (line.erase t).take n) : u ∈ line.take (n + 1) := by
  induction line generalizing n with
  | nil => simp at h
  | cons a rest ih =>
    rw [List.take_succ_cons, List.mem_cons]
    by_cases ha : a = t
    · subst ha
      rw [List.erase_cons_head] at h
      exact .inr h
    · rw [List.erase_cons_tail (by simpa using ha)] at h
      cases n with
      | zero => simp at h
      | succ n =>
        rw [List.take_succ_cons, List.mem_cons] at h
        exact h.imp_right ih

/-- Whoever is behind one that is not among the first is not next to them either. -/
theorem notMem_take_of_behind {line : List Ticket} {t u : Ticket} {n : Nat} (hnodup : line.Nodup)
    (hbehind : [t, u].Sublist line) (ht : t ∉ line.take n) : u ∉ line.take (n + 1) := by
  induction line generalizing n with
  | nil => simp
  | cons a rest ih =>
    obtain ⟨hfirst, hrest⟩ := List.nodup_cons.mp hnodup
    have hu : u ∈ rest := by
      cases hbehind with
      | cons _ hbehind => exact hbehind.subset (by simp)
      | cons_cons _ hbehind => exact hbehind.subset (by simp)
    rw [List.take_succ_cons, List.mem_cons, not_or]
    refine ⟨fun hua => hfirst (hua ▸ hu), ?_⟩
    cases n with
    | zero => simp
    | succ n =>
      rw [List.take_succ_cons, List.mem_cons, not_or] at ht
      have hbehind : [t, u].Sublist rest := by
        cases hbehind with
        | cons _ hbehind => exact hbehind
        | cons_cons _ hbehind => exact absurd rfl ht.1
      exact ih hrest hbehind ht.2

end Bulkhead

namespace Holders

variable {hs : Holders} {t u : Ticket} {name : String} {req : Request} {next : Holders × Response}

/-! ## What a request does to the line -/

theorem release_line (hp : hs.Placed) {h : Holder} (hh : h ∈ hs.holders) :
    (hs.release h).bulkhead.line = hs.bulkhead.line.erase h.ticket := by
  rw [release, vacate]
  cases hstage : h.stage with
  | admitted =>
    have hout : h.ticket ∉ hs.bulkhead.line := hp.occupied.idle_apart _ (hstage ▸ mem_ticketsAt hh)
    exact (List.erase_of_not_mem hout).symm
  | acquiring => rfl
  | running => rfl

theorem added_line (hs : Holders) (name : String) :
    (hs.added name).bulkhead.line = hs.bulkhead.line := by
  rw [added, Bulkhead.tryEnter]
  dsimp only
  split <;> rfl

/-- One joins the line at its end, or one leaves it, or nobody does. -/
theorem Move.line (hp : hs.Placed) (hm : Move hs name req next) :
    next.1.bulkhead.line = hs.bulkhead.line ∨
      (∃ h, hs.find? name = some h ∧ h.stage = .admitted ∧ req = .acquire ∧
        next.1.bulkhead.line = hs.bulkhead.line ++ [h.ticket]) ∨
      ∃ x, next.1.bulkhead.line = hs.bulkhead.line.erase x := by
  cases hm with
  | full hfull => exact .inl (by rw [refused, Bulkhead.tryEnter_of_full hfull])
  | entered => exact .inl (hs.added_line name)
  | replaced h hroom hh =>
    refine .inr (.inr ⟨h.ticket, ?_⟩)
    rw [release_line (hp.added name hroom) (List.mem_append_left _ (mem_of_find? hh)), added_line]
  | linedUp h hh hstage => exact .inr (.inl ⟨h, hh, hstage, rfl, rfl⟩)
  | dropped h hh => exact .inr (.inr ⟨h.ticket, release_line hp (mem_of_find? hh)⟩)
  | ignored | missed => exact .inl rfl

/-- While somebody waits, a request brings one more to the front at most. -/
theorem Move.mem_take (h : hs.Settled) (ht : t ∈ hs.ticketsAt .acquiring)
    (hm : Move hs name req next) (hu : u ∈ next.1.bulkhead.line.take hs.bulkhead.coreSize) :
    u ∈ hs.bulkhead.line.take (hs.bulkhead.coreSize + 1) := by
  have hlater : hs.bulkhead.line.take hs.bulkhead.coreSize ⊆
      hs.bulkhead.line.take (hs.bulkhead.coreSize + 1) :=
    List.take_subset_take_left _ (Nat.le_succ _)
  rcases hm.line h.placed with hsame | ⟨other, -, -, -, hsame⟩ | ⟨x, hsame⟩
  · exact hlater (hsame ▸ hu)
  · -- whoever joins is behind the one that waits
    rw [hsame, List.take_append_of_le_length (h.coreSize_le_length ht)] at hu
    exact hlater hu
  · exact Bulkhead.mem_take_of_mem_take_erase (hsame ▸ hu)

/-- The request gives up what the holder of a ticket has, or gets its name a new place instead. -/
def GivesUp (hs : Holders) (name : String) (req : Request) (response : Response) (t : Ticket) : Prop :=
  (∃ h, hs.find? name = some h ∧ h.ticket = t) ∧
    (req = .drop ∨ req = .enter ∧ response = .admitted)

/-- Whoever waits in line goes on waiting, if it does not give up. -/
theorem Move.acquiring (ht : t ∈ hs.ticketsAt .acquiring)
    (hm : Move hs name req next) :
    t ∈ next.1.ticketsAt .acquiring ∨ hs.GivesUp name req next.2 t := by
  have hadded : t ∈ (hs.added name).ticketsAt .acquiring := by simpa [ticketsAt_added] using ht
  cases hm with
  | full | ignored | missed => exact .inl ht
  | entered => exact .inl hadded
  | replaced h hroom hh =>
    rw [ticketsAt_release]
    by_cases heq : h.ticket = t
    · exact .inr ⟨⟨h, hh, heq⟩, .inr ⟨rfl, rfl⟩⟩
    · exact .inl ⟨hadded, fun hmem => heq hmem.symm⟩
  | linedUp h hh hstage =>
    rw [mem_ticketsAt_linedUp (mem_of_find? hh)]
    simp [ht]
  | dropped h hh =>
    rw [ticketsAt_release]
    by_cases heq : h.ticket = t
    · exact .inr ⟨⟨h, hh, heq⟩, .inl rfl⟩
    · exact .inl ⟨ht, fun hmem => heq hmem.symm⟩

/-! ## Order in the line -/

/-- One that has entered and lined up is behind another one, if it is still in the line. -/
structure Behind (hs : Holders) (t u : Ticket) : Prop where
  known : u < hs.nextTicket
  entered : u ∉ hs.ticketsAt .admitted
  order : u ∈ hs.bulkhead.line → [t, u].Sublist hs.bulkhead.line

theorem Behind.startAll (h : hs.Behind t u) : hs.startAll.Behind t u where
  known := h.known
  entered := by
    rw [mem_ticketsAt_startAll]
    simpa using h.entered
  order := by
    rw [startAll_line]
    exact h.order

/-- Of those that have entered nobody is let in again. -/
theorem Move.notMem_admitted (hm : Move hs name req next) (hu : u < hs.nextTicket)
    (hout : u ∉ hs.ticketsAt .admitted) : u < next.1.nextTicket ∧ u ∉ next.1.ticketsAt .admitted := by
  have hadded : u < (hs.added name).nextTicket ∧ u ∉ (hs.added name).ticketsAt .admitted := by
    refine ⟨Nat.lt_succ_of_lt hu, ?_⟩
    rw [ticketsAt_added, if_pos rfl, Set.mem_insert_iff, not_or]
    exact ⟨Nat.ne_of_lt hu, hout⟩
  cases hm with
  | full | ignored | missed => exact ⟨hu, hout⟩
  | entered => exact hadded
  | replaced h hroom hh => exact ⟨hadded.1, by rw [ticketsAt_release]; exact fun hmem => hadded.2 hmem.1⟩
  | linedUp h hh hstage =>
    refine ⟨hu, ?_⟩
    rw [mem_ticketsAt_linedUp (mem_of_find? hh)]
    split
    · simp
    · exact hout
  | dropped h hh => exact ⟨hu, by rw [ticketsAt_release]; exact fun hmem => hout hmem.1⟩

/-- Two in the line keep their order while the first of them waits. -/
theorem Move.behind (hp : hs.Placed) (hm : Move hs name req next) (h : hs.Behind t u)
    (ht : t ∈ next.1.bulkhead.line) : next.1.Behind t u := by
  obtain ⟨hknown, hentered⟩ := hm.notMem_admitted h.known h.entered
  refine ⟨hknown, hentered, fun hu => ?_⟩
  rcases hm.line hp with hsame | ⟨other, hother, hstage, -, hsame⟩ | ⟨x, hsame⟩
  · rw [hsame] at hu ⊢
    exact h.order hu
  · rw [hsame] at hu ⊢
    rcases List.mem_append.mp hu with hu | hu
    · exact (h.order hu).trans (List.sublist_append_left _ _)
    · -- nobody lines up a second time
      rw [List.mem_singleton.mp hu] at h
      exact absurd (hstage ▸ mem_ticketsAt (mem_of_find? hother)) h.entered
  · -- somebody else leaves, and the two are what is left of `[t, u]`
    rw [hsame, hp.occupied.nodup.mem_erase_iff] at ht hu
    rw [hsame]
    have horder := (h.order hu.2).erase x
    rwa [List.erase_of_not_mem (by simp [ht.1.symm, hu.1.symm])] at horder

theorem Move.eq_linedUp {h : Holder} (hm : Move hs name .acquire next) (hh : hs.find? name = some h)
    (hstage : h.stage = .admitted) : next.1 = hs.linedUp h := by
  cases hm with
  | linedUp other hother => rw [Option.some.inj (hh.symm.trans hother)]
  | ignored hnone => exact absurd hstage (hnone h hh)

/-- Whoever lines up is behind those that wait. -/
theorem behind_linedUp (hp : hs.Placed) {h : Holder} (hh : h ∈ hs.holders)
    (ht : t ∈ hs.bulkhead.line) : (hs.linedUp h).Behind t h.ticket where
  known := hp.ticket_lt h hh
  entered := by
    rw [mem_ticketsAt_linedUp hh]
    simp
  order := fun _ => List.Sublist.append (List.singleton_sublist.mpr ht) (List.Sublist.refl [h.ticket])

end Holders

end ServiceBinding
