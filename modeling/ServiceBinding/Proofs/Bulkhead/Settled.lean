import ServiceBinding.Bulkhead.Holders
import ServiceBinding.Proofs.Bulkhead.Occupied

/-!
# Holders and their places

What is asked for in the name of a holder is one of a few moves (`Move`), after each of which everybody
starts who is entitled to a slot. The tickets of the holders that have come to each stage are the calls
of the bulkhead (`Placed`), so its counts are numbers of holders; and after every request nobody waits who
could start (`Settled`), so that while somebody waits all slots are taken (`Settled.active_eq`).
-/

namespace ServiceBinding

namespace Bulkhead.Occupied

variable {b : Bulkhead} {idle queued running : Set Ticket}

/-- Calls that are entitled to their slots may start one after the other. -/
theorem start_each (h : b.Occupied idle queued running) {ts : List Ticket} (hnodup : ts.Nodup)
    (hqueued : ∀ t ∈ ts, t ∈ queued) (hturn : ∀ t ∈ ts, t ∈ b.line.take b.coreSize) :
    (ts.foldl (fun b _ => b.start) b).Occupied idle (queued \ {t | t ∈ ts})
      (running ∪ {t | t ∈ ts}) := by
  induction ts generalizing b queued running with
  | nil => exact h.congr rfl (by simp) (by simp)
  | cons t ts ih =>
    obtain ⟨hfirst, hrest⟩ := List.nodup_cons.mp hnodup
    have hstart := h.start (hqueued t List.mem_cons_self) (hturn t List.mem_cons_self)
    have hothers : ∀ u ∈ ts, u ∈ queued \ {t} := fun u hu =>
      ⟨hqueued u (List.mem_cons_of_mem _ hu), fun hut => hfirst (hut ▸ hu)⟩
    have hnext := ih hstart hrest hothers fun u hu => hturn u (List.mem_cons_of_mem _ hu)
    refine hnext.congr rfl ?_ ?_
    · ext u
      simp only [Set.mem_sdiff, Set.mem_ofPred_eq, Set.mem_singleton_iff, List.mem_cons]
      tauto
    · ext u
      simp only [Set.mem_union, Set.mem_insert_iff, Set.mem_ofPred_eq, List.mem_cons]
      tauto

end Bulkhead.Occupied

namespace Holders

variable {hs : Holders} {t : Ticket} {name : String}

/-! ## Stages -/

/-- The tickets of the holders that have come to a stage. -/
def ticketsAt (hs : Holders) (stage : HolderStage) : Set Ticket :=
  {t | ∃ h ∈ hs.holders, h.stage = stage ∧ h.ticket = t}

/-- How many holders have come to a stage. -/
def number (hs : Holders) (stage : HolderStage) : Nat := hs.holders.countP fun h => h.stage = stage

theorem number_add (hs : Holders) :
    hs.number .admitted + hs.number .acquiring + hs.number .running = hs.holders.length := by
  unfold number
  induction hs.holders with
  | nil => rfl
  | cons h rest ih =>
    simp only [List.countP_cons, List.length_cons]
    cases h.stage <;> simp <;> omega

theorem ncard_ticketsAt (hnodup : (hs.holders.map Holder.ticket).Nodup) (stage : HolderStage) :
    (hs.ticketsAt stage).ncard = hs.number stage := by
  have hset : hs.ticketsAt stage =
      {t | t ∈ (hs.holders.filter fun h => h.stage = stage).map Holder.ticket} := by
    ext t
    simp [ticketsAt, and_assoc]
  have hsub : ((hs.holders.filter fun h => h.stage = stage).map Holder.ticket).Nodup :=
    hnodup.sublist (List.filter_sublist.map _)
  rw [hset, Bulkhead.Occupied.ncard_setOf_mem hsub, List.length_map, number, List.countP_eq_length_filter]

/-! ## Moves -/

/-- A holder gives up what it has. -/
def release (hs : Holders) (h : Holder) : Holders :=
  { hs with
    bulkhead := vacate hs.bulkhead h
    holders := hs.holders.filter fun other => other.ticket ≠ h.ticket }

/-- A new holder is let in. -/
def added (hs : Holders) (name : String) : Holders :=
  { bulkhead := hs.bulkhead.tryEnter.1
    holders := hs.holders ++ [⟨name, hs.nextTicket, .admitted⟩]
    nextTicket := hs.nextTicket + 1 }

/-- The holders come to other stages, in a bulkhead that has changed with them. -/
def restaged (hs : Holders) (b : Bulkhead) (stage : Holder → HolderStage) : Holders :=
  { hs with bulkhead := b, holders := hs.holders.map fun h => { h with stage := stage h } }

/-- A holder lines up. -/
def linedUp (hs : Holders) (h : Holder) : Holders :=
  hs.restaged (hs.bulkhead.lineUp h.ticket) fun other =>
    if other.ticket = h.ticket then .acquiring else other.stage

/-- A call that finds no place is counted. -/
def refused (hs : Holders) : Holders := { hs with bulkhead := hs.bulkhead.tryEnter.1 }

/-- What a request can do, before everybody starts who is entitled to a slot. -/
inductive Move (hs : Holders) (name : String) : Request → Holders × Response → Prop
  | full (hfull : ¬ hs.bulkhead.held < hs.bulkhead.coreSize + hs.bulkhead.queueSize) :
      Move hs name .enter (hs.refused, .full)
  | entered (hroom : hs.bulkhead.held < hs.bulkhead.coreSize + hs.bulkhead.queueSize)
      (hnone : hs.find? name = none) : Move hs name .enter (hs.added name, .admitted)
  /-- The new place takes that of an earlier one. -/
  | replaced (h : Holder) (hroom : hs.bulkhead.held < hs.bulkhead.coreSize + hs.bulkhead.queueSize)
      (hh : hs.find? name = some h) : Move hs name .enter ((hs.added name).release h, .admitted)
  | linedUp (h : Holder) (hh : hs.find? name = some h) (hstage : h.stage = .admitted) :
      Move hs name .acquire (hs.linedUp h, .acquiring)
  | ignored (hnone : ∀ h, hs.find? name = some h → h.stage ≠ .admitted) :
      Move hs name .acquire (hs, .ignored)
  | dropped (h : Holder) (hh : hs.find? name = some h) :
      Move hs name .drop (hs.release h, .dropped true)
  | missed (hnone : hs.find? name = none) : Move hs name .drop (hs, .dropped false)

theorem mem_of_find? {h : Holder} (hh : hs.find? name = some h) : h ∈ hs.holders :=
  List.mem_of_find?_eq_some hh

theorem name_of_find? {h : Holder} (hh : hs.find? name = some h) : h.name = name := by
  simpa using List.find?_some hh

theorem enter_move (hlt : ∀ h ∈ hs.holders, h.ticket < hs.nextTicket) (name : String) :
    Move hs name .enter (hs.enter name) := by
  by_cases hroom : hs.bulkhead.held < hs.bulkhead.coreSize + hs.bulkhead.queueSize
  · have htry : hs.bulkhead.tryEnter = (hs.bulkhead.tryEnter.1, true) :=
      Prod.ext rfl (Bulkhead.tryEnter_iff.mpr hroom)
    cases hfind : hs.find? name with
    | none =>
      have hsame : hs.enter name = (hs.added name, .admitted) := by
        rw [find?] at hfind
        rw [enter, htry]
        simp [remove, find?, hfind, added]
      exact hsame ▸ .entered hroom hfind
    | some h =>
      -- the new holder has a ticket of its own, so it stays when the earlier one goes
      have hticket : hs.nextTicket ≠ h.ticket := Nat.ne_of_gt (hlt h (mem_of_find? hfind))
      have hsame : hs.enter name = ((hs.added name).release h, .admitted) := by
        rw [find?] at hfind
        rw [enter, htry]
        simp [remove, find?, hfind, added, release, hticket]
      exact hsame ▸ .replaced h hroom hfind
  · have htry : hs.bulkhead.tryEnter = (hs.bulkhead.tryEnter.1, false) :=
      Prod.ext rfl (Bool.eq_false_iff.mpr fun h => hroom (Bulkhead.tryEnter_iff.mp h))
    have hsame : hs.enter name = (hs.refused, .full) := by
      rw [enter, htry]
      rfl
    exact hsame ▸ .full hroom

theorem acquire_move (hs : Holders) (name : String) : Move hs name .acquire (hs.acquire name) := by
  cases hfind : hs.find? name with
  | none =>
    have hsame : hs.acquire name = (hs, .ignored) := by simp [acquire, hfind]
    exact hsame ▸ .ignored fun h hh => by simp [hfind] at hh
  | some h =>
    by_cases hstage : h.stage = .admitted
    · have hsame : hs.acquire name = (hs.linedUp h, .acquiring) := by
        obtain ⟨_, t, _⟩ := h
        subst hstage
        simp only [acquire, hfind, Holders.linedUp, restaged]
        refine congrArg (fun holders => (({ hs with bulkhead := _, holders } : Holders), _)) ?_
        refine List.map_congr_left fun other _ => ?_
        split <;> rfl
      exact hsame ▸ .linedUp h hfind hstage
    · have hsame : hs.acquire name = (hs, .ignored) := by
        obtain ⟨_, t, _ | _ | _⟩ := h
        · exact absurd rfl hstage
        all_goals simp [acquire, hfind]
      refine hsame ▸ .ignored fun other hother => ?_
      rwa [← Option.some.inj (hfind.symm.trans hother)]

theorem drop_move (hs : Holders) (name : String) :
    Move hs name .drop (hs.remove name, .dropped (hs.find? name).isSome) := by
  cases hfind : hs.find? name with
  | none =>
    have hsame : hs.remove name = hs := by simp [remove, hfind]
    exact hsame.symm ▸ .missed hfind
  | some h =>
    have hsame : hs.remove name = hs.release h := by simp [remove, hfind, release]
    exact hsame.symm ▸ .dropped h hfind

/-- Whatever a request does is one of the moves, and then everybody starts who can. -/
theorem perform_move (hlt : ∀ h ∈ hs.holders, h.ticket < hs.nextTicket) (name : String) (r : Request) :
    ∃ next, Move hs name r next ∧ hs.perform name r = (next.1.startAll, next.2) := by
  cases r with
  | enter => exact ⟨_, enter_move hlt name, rfl⟩
  | acquire => exact ⟨_, acquire_move hs name, rfl⟩
  | drop => exact ⟨_, drop_move hs name, rfl⟩

/-! ## Places -/

/-- The places of the bulkhead are those of the holders, each with a ticket of its own. -/
structure Placed (hs : Holders) : Prop where
  occupied : hs.bulkhead.Occupied (hs.ticketsAt .admitted) (hs.ticketsAt .acquiring)
    (hs.ticketsAt .running)
  nodup : (hs.holders.map Holder.ticket).Nodup
  ticket_lt : ∀ h ∈ hs.holders, h.ticket < hs.nextTicket

theorem mem_ticketsAt {h : Holder} (hh : h ∈ hs.holders) : h.ticket ∈ hs.ticketsAt h.stage :=
  ⟨h, hh, rfl, rfl⟩

theorem ticketsAt_release (hs : Holders) (h : Holder) (stage : HolderStage) :
    (hs.release h).ticketsAt stage = hs.ticketsAt stage \ {h.ticket} := by
  ext t
  simp only [ticketsAt, release, Set.mem_sdiff, Set.mem_ofPred_eq, List.mem_filter,
    Set.mem_singleton_iff, decide_eq_true_eq]
  constructor
  · rintro ⟨other, ⟨ho, hne⟩, hstage, rfl⟩
    exact ⟨⟨other, ho, hstage, rfl⟩, hne⟩
  · rintro ⟨⟨other, ho, hstage, rfl⟩, hne⟩
    exact ⟨other, ⟨ho, hne⟩, hstage, rfl⟩

theorem ticketsAt_added (hs : Holders) (name : String) (stage : HolderStage) :
    (hs.added name).ticketsAt stage =
      if stage = .admitted then insert hs.nextTicket (hs.ticketsAt stage) else hs.ticketsAt stage := by
  ext t
  cases stage <;> simp [ticketsAt, added, or_and_right, exists_or, or_comm, eq_comm]

theorem mem_ticketsAt_restaged {b : Bulkhead} {next : Holder → HolderStage} {stage : HolderStage} :
    t ∈ (hs.restaged b next).ticketsAt stage ↔ ∃ h ∈ hs.holders, next h = stage ∧ h.ticket = t := by
  simp [ticketsAt, restaged]

/-- Who has come to which stage after a holder has lined up. -/
theorem mem_ticketsAt_linedUp {h : Holder} (hh : h ∈ hs.holders) {stage : HolderStage} :
    t ∈ (hs.linedUp h).ticketsAt stage ↔
      if t = h.ticket then stage = .acquiring else t ∈ hs.ticketsAt stage := by
  rw [linedUp, mem_ticketsAt_restaged]
  by_cases ht : t = h.ticket
  · subst ht
    constructor
    · rintro ⟨other, -, hstage, heq⟩
      simpa [heq, eq_comm] using hstage
    · intro hstage
      exact ⟨h, hh, by simpa [eq_comm] using hstage, rfl⟩
  · rw [if_neg ht]
    refine exists_congr fun other => and_congr_right fun _ => and_congr_left fun heq => ?_
    rw [if_neg (heq ▸ ht)]

/-- Those in line who are entitled to a slot. -/
def ready (hs : Holders) : List Ticket :=
  (hs.holders.filter fun h => h.stage = .acquiring ∧ hs.bulkhead.canStart h.ticket).map Holder.ticket

theorem mem_ready : t ∈ hs.ready ↔ t ∈ hs.ticketsAt .acquiring ∧ hs.bulkhead.canStart t := by
  simp only [ready, List.mem_map, List.mem_filter, decide_eq_true_eq, ticketsAt, Set.mem_ofPred_eq]
  constructor
  · rintro ⟨h, ⟨hh, hstage, hcan⟩, rfl⟩
    exact ⟨⟨h, hh, hstage, rfl⟩, hcan⟩
  · rintro ⟨⟨h, hh, hstage, rfl⟩, hcan⟩
    exact ⟨h, ⟨hh, hstage, hcan⟩, rfl⟩

/-- Everybody starts who is entitled to a slot, all at once. -/
theorem startAll_eq (hs : Holders) :
    hs.startAll = hs.restaged (hs.ready.foldl (fun b _ => b.start) hs.bulkhead) fun h =>
      if h.stage = .acquiring ∧ hs.bulkhead.canStart h.ticket then .running else h.stage := by
  simp only [startAll, restaged, ready, List.foldl_map, Bool.decide_and, Bool.decide_coe]
  refine congrArg (Holders.mk _ · _) (List.map_congr_left fun h _ => ?_)
  by_cases hstarts : h.stage = .acquiring ∧ hs.bulkhead.canStart h.ticket
  · rw [if_pos (by simpa using hstarts), if_pos hstarts]
  · rw [if_neg (by simpa using hstarts), if_neg hstarts]

/-- Who has come to which stage after everybody has started who can. -/
theorem mem_ticketsAt_startAll {stage : HolderStage} :
    t ∈ hs.startAll.ticketsAt stage ↔
      t ∈ hs.ticketsAt stage ∧ ¬ (stage = .acquiring ∧ hs.bulkhead.canStart t) ∨
        stage = .running ∧ t ∈ hs.ready := by
  rw [startAll_eq, mem_ticketsAt_restaged, mem_ready]
  constructor
  · rintro ⟨h, hh, hstage, rfl⟩
    split at hstage
    · next hstarts => exact .inr ⟨hstage.symm, hstarts.1 ▸ mem_ticketsAt hh, hstarts.2⟩
    · next hstays => exact .inl (hstage ▸ ⟨mem_ticketsAt hh, hstays⟩)
  · rintro (⟨⟨h, hh, rfl, rfl⟩, hstays⟩ | ⟨rfl, ⟨h, hh, hstage, rfl⟩, hcan⟩)
    · exact ⟨h, hh, if_neg hstays, rfl⟩
    · exact ⟨h, hh, if_pos ⟨hstage, hcan⟩, rfl⟩

namespace Placed

theorem new (b : Bulkhead) (h : b.Occupied ∅ ∅ ∅) : ({ bulkhead := b } : Holders).Placed where
  occupied := h.congr (by simp [ticketsAt]) (by simp [ticketsAt]) (by simp [ticketsAt])
  nodup := .nil
  ticket_lt := by simp

/-- No ticket has come to two stages. -/
theorem stage_unique (hp : hs.Placed) {stage other : HolderStage} (ht : t ∈ hs.ticketsAt stage)
    (ho : t ∈ hs.ticketsAt other) : stage = other := by
  obtain ⟨h, hh, rfl, rfl⟩ := ht
  obtain ⟨h', hh', rfl, heq⟩ := ho
  rw [List.inj_on_of_nodup_map hp.nodup hh hh' heq.symm]

theorem refused (hp : hs.Placed) (hfull : ¬ hs.bulkhead.held < hs.bulkhead.coreSize + hs.bulkhead.queueSize) :
    hs.refused.Placed where
  occupied := hp.occupied.refuse hfull
  nodup := hp.nodup
  ticket_lt := hp.ticket_lt

theorem added (hp : hs.Placed) (name : String)
    (hroom : hs.bulkhead.held < hs.bulkhead.coreSize + hs.bulkhead.queueSize) :
    (hs.added name).Placed := by
  have hfresh : ∀ stage, hs.nextTicket ∉ hs.ticketsAt stage := by
    rintro stage ⟨h, hh, -, heq⟩
    exact Nat.ne_of_lt (hp.ticket_lt h hh) heq
  have hline : hs.nextTicket ∉ hs.bulkhead.line := fun hmem =>
    ((hp.occupied.mem_line _).mp hmem).elim (hfresh _) (hfresh _)
  constructor
  · refine (hp.occupied.enter hroom (hfresh _) hline).congr ?_ ?_ ?_
    all_goals rw [ticketsAt_added]; rfl
  · rw [Holders.added, List.map_append, List.map_singleton, List.nodup_append]
    refine ⟨hp.nodup, List.nodup_singleton _, fun t ht u hu => ?_⟩
    obtain ⟨h, hh, rfl⟩ := List.mem_map.mp ht
    rw [List.mem_singleton.mp hu]
    exact Nat.ne_of_lt (hp.ticket_lt h hh)
  · intro h hh
    rcases List.mem_append.mp hh with hh | hh
    · exact Nat.lt_succ_of_lt (hp.ticket_lt h hh)
    · rw [List.mem_singleton.mp hh]
      exact Nat.lt_succ_self _

theorem release (hp : hs.Placed) {h : Holder} (hh : h ∈ hs.holders) : (hs.release h).Placed := by
  have hat : h.ticket ∈ hs.ticketsAt h.stage := mem_ticketsAt hh
  have hothers : ∀ stage, stage ≠ h.stage →
      hs.ticketsAt stage \ {h.ticket} = hs.ticketsAt stage := fun stage hne =>
    Set.sdiff_singleton_eq_self fun ht => hne (hp.stage_unique ht hat)
  constructor
  · -- the ticket leaves the set of its stage; the other two do not have it
    rw [ticketsAt_release, ticketsAt_release, ticketsAt_release, Holders.release, vacate]
    cases hstage : h.stage with
    | admitted =>
      rw [hothers .acquiring (by simp [hstage]), hothers .running (by simp [hstage])]
      exact hp.occupied.leave (hstage ▸ hat)
    | acquiring =>
      rw [hothers .admitted (by simp [hstage]), hothers .running (by simp [hstage])]
      exact hp.occupied.giveUp (hstage ▸ hat)
    | running =>
      rw [hothers .admitted (by simp [hstage]), hothers .acquiring (by simp [hstage])]
      exact hp.occupied.finish (hstage ▸ hat)
  · exact hp.nodup.sublist (List.filter_sublist.map _)
  · intro other ho
    exact hp.ticket_lt other (List.mem_of_mem_filter ho)

theorem restaged (hp : hs.Placed) {b : Bulkhead} {next : Holder → HolderStage}
    (hocc : b.Occupied ((hs.restaged b next).ticketsAt .admitted)
      ((hs.restaged b next).ticketsAt .acquiring) ((hs.restaged b next).ticketsAt .running)) :
    (hs.restaged b next).Placed where
  occupied := hocc
  nodup := by
    rw [Holders.restaged, List.map_map]
    exact hp.nodup
  ticket_lt := by
    intro h hh
    obtain ⟨other, ho, rfl⟩ := List.mem_map.mp hh
    exact hp.ticket_lt other ho

theorem linedUp (hp : hs.Placed) {h : Holder} (hh : h ∈ hs.holders) (hstage : h.stage = .admitted) :
    (hs.linedUp h).Placed := by
  have hat : h.ticket ∈ hs.ticketsAt .admitted := hstage ▸ mem_ticketsAt hh
  have hrunning : h.ticket ∉ hs.ticketsAt .running := fun hrun => by
    simpa using hp.stage_unique hrun hat
  refine hp.restaged ((hp.occupied.lineUp hat).congr ?_ ?_ ?_)
  all_goals
    ext t
    refine (mem_ticketsAt_linedUp hh).trans ?_
    by_cases ht : t = h.ticket <;> simp [ht, hrunning]

theorem startAll (hp : hs.Placed) : hs.startAll.Placed := by
  have hready : hs.ready.Nodup := hp.nodup.sublist (List.filter_sublist.map _)
  have hqueued : ∀ t ∈ hs.ready, t ∈ hs.ticketsAt .acquiring := fun t ht => (mem_ready.mp ht).1
  have hturn : ∀ t ∈ hs.ready, t ∈ hs.bulkhead.line.take hs.bulkhead.coreSize := fun t ht => by
    simpa [Bulkhead.canStart] using (mem_ready.mp ht).2
  have hocc := hp.occupied.start_each hready hqueued hturn
  rw [startAll_eq]
  refine hp.restaged (hocc.congr ?_ ?_ ?_)
  all_goals
    rw [← startAll_eq]
    ext t
    simp [mem_ticketsAt_startAll, mem_ready]

end Placed

theorem Move.placed (hp : hs.Placed) {r : Request} {next : Holders × Response}
    (hm : Move hs name r next) : next.1.Placed := by
  cases hm with
  | full hfull => exact hp.refused hfull
  | entered hroom => exact hp.added name hroom
  | replaced h hroom hh => exact (hp.added name hroom).release (List.mem_append_left _ (mem_of_find? hh))
  | linedUp h hh hstage => exact hp.linedUp (mem_of_find? hh) hstage
  | dropped h hh => exact hp.release (mem_of_find? hh)
  | ignored | missed => exact hp

/-! ## Nobody waits who could start -/

/-- What a start leaves alone all the starts leave alone. -/
theorem startAll_kept {α : Type} (f : Bulkhead → α) (hf : ∀ b : Bulkhead, f b.start = f b)
    (hs : Holders) : f hs.startAll.bulkhead = f hs.bulkhead := by
  rw [startAll_eq, restaged]
  generalize hs.bulkhead = b
  induction hs.ready generalizing b with
  | nil => rfl
  | cons t ts ih => exact (ih b.start).trans (hf b)

theorem startAll_line (hs : Holders) : hs.startAll.bulkhead.line = hs.bulkhead.line :=
  startAll_kept Bulkhead.line (fun _ => rfl) hs

theorem startAll_coreSize (hs : Holders) : hs.startAll.bulkhead.coreSize = hs.bulkhead.coreSize :=
  startAll_kept Bulkhead.coreSize (fun _ => rfl) hs

/-- Nobody in line is entitled to a slot. -/
structure Settled (hs : Holders) : Prop where
  placed : hs.Placed
  waits : ∀ t ∈ hs.ticketsAt .acquiring, t ∉ hs.bulkhead.line.take hs.bulkhead.coreSize

theorem Placed.settled (hp : hs.Placed) : hs.startAll.Settled where
  placed := hp.startAll
  waits := by
    intro t ht hfront
    rw [startAll_line, startAll_coreSize] at hfront
    rw [mem_ticketsAt_startAll] at ht
    have hcan : hs.bulkhead.canStart t = true := by simpa [Bulkhead.canStart] using hfront
    simp [hcan] at ht

theorem settled_new (name : String) (coreSize queueSize : Nat) :
    ({ bulkhead := .new name coreSize queueSize } : Holders).Settled where
  placed := .new _ (.new name coreSize queueSize)
  waits := by simp [ticketsAt]

/-- Whatever is asked for, nobody waits afterwards who could start. -/
theorem Settled.perform (h : hs.Settled) (name : String) (r : Request) :
    (hs.perform name r).1.Settled := by
  obtain ⟨next, hmove, hsame⟩ := perform_move h.placed.ticket_lt name r
  rw [hsame]
  exact (hmove.placed h.placed).settled

/-- Somebody waits in line only behind as many as there are slots. -/
theorem Settled.coreSize_le_length (h : hs.Settled) (ht : t ∈ hs.ticketsAt .acquiring) :
    hs.bulkhead.coreSize ≤ hs.bulkhead.line.length := by
  by_contra hshort
  have hwaits := h.waits t ht
  rw [List.take_of_length_le (Nat.le_of_not_le hshort)] at hwaits
  exact hwaits ((h.placed.occupied.mem_line t).mpr (.inl ht))

/-- While somebody waits in line all slots are taken. -/
theorem Settled.active_eq (h : hs.Settled) (ht : t ∈ hs.ticketsAt .acquiring) :
    hs.bulkhead.active = hs.bulkhead.coreSize := by
  have hocc := h.placed.occupied
  have hfront : ∀ u ∈ hs.bulkhead.line.take hs.bulkhead.coreSize, u ∈ hs.ticketsAt .running :=
    fun u hu => ((hocc.mem_line u).mp (List.mem_of_mem_take hu)).resolve_left fun hq => h.waits u hq hu
  refine Nat.le_antisymm hocc.active_le ?_
  calc hs.bulkhead.coreSize
      = (hs.bulkhead.line.take hs.bulkhead.coreSize).length := by
        rw [List.length_take_of_le (h.coreSize_le_length ht)]
    _ = {u | u ∈ hs.bulkhead.line.take hs.bulkhead.coreSize}.ncard :=
      (Bulkhead.Occupied.ncard_setOf_mem (hocc.nodup.sublist (List.take_sublist _ _))).symm
    _ ≤ (hs.ticketsAt .running).ncard := Set.ncard_le_ncard hfront hocc.running_finite
    _ = hs.bulkhead.active := hocc.active.symm

end Holders

end ServiceBinding
