import Mathlib.Data.Nat.Count
import ServiceBinding.Proofs.Bulkhead.Line

/-!
# Runs of the holders of a bulkhead

Requests come one after the other to a bulkhead that is new at first (`Holders.Run`). Its places are
conserved: its counts are numbers of holders at every point, it refuses whoever finds all places taken and
nobody else, and empty again it has as many places as at first. And it is fair: whoever has lined up earlier
starts earlier, or gives up (`Run.starts_in_order`).
-/

namespace ServiceBinding

namespace Holders

variable {hs : Holders} {t u : Ticket} {name : String} {req : Request} {next : Holders × Response}

/-! ## Counts -/

/-- A place given up changes nothing but who has the places. -/
theorem vacate_eq (b : Bulkhead) (h : Holder) : ∃ held line active waiting,
    vacate b h = { b with held := held, line := line, active := active, waiting := waiting } := by
  rw [vacate]
  cases h.stage <;> exact ⟨_, _, _, _, rfl⟩

theorem Move.sizes (hm : Move hs name req next) :
    next.1.bulkhead.coreSize = hs.bulkhead.coreSize ∧
      next.1.bulkhead.queueSize = hs.bulkhead.queueSize := by
  cases hm with
  | full hfull => simp [refused, Bulkhead.tryEnter_of_full hfull]
  | entered hroom => simp [added, Bulkhead.tryEnter_of_room hroom]
  | replaced h hroom =>
    obtain ⟨_, _, _, _, hsame⟩ := vacate_eq (hs.added name).bulkhead h
    simp only [release, hsame]
    simp [added, Bulkhead.tryEnter_of_room hroom]
  | dropped h =>
    obtain ⟨_, _, _, _, hsame⟩ := vacate_eq hs.bulkhead h
    simp only [release, hsame, and_self]
  | linedUp | ignored | missed => exact ⟨rfl, rfl⟩

/-- Every call is counted, and every refusal. -/
theorem Move.totals (hm : Move hs name req next) :
    next.1.bulkhead.totalCalls = hs.bulkhead.totalCalls + (if next.2 = .full then 1 else 0) +
        (if next.2 = .admitted then 1 else 0) ∧
      next.1.bulkhead.totalRejections =
        hs.bulkhead.totalRejections + if next.2 = .full then 1 else 0 := by
  cases hm with
  | full hfull => simp [refused, Bulkhead.tryEnter_of_full hfull]
  | entered hroom => simp [added, Bulkhead.tryEnter_of_room hroom]
  | replaced h hroom =>
    obtain ⟨_, _, _, _, hsame⟩ := vacate_eq (hs.added name).bulkhead h
    simp only [release, hsame]
    simp [added, Bulkhead.tryEnter_of_room hroom]
  | dropped h =>
    obtain ⟨_, _, _, _, hsame⟩ := vacate_eq hs.bulkhead h
    simp only [release, hsame]
    exact ⟨rfl, rfl⟩
  | linedUp | ignored | missed => exact ⟨rfl, rfl⟩

/-- The calls let in that have not ended are the holders. -/
theorem Placed.held_eq (hp : hs.Placed) : hs.bulkhead.held = hs.holders.length := by
  rw [hp.occupied.held, hp.occupied.length_line, ncard_ticketsAt hp.nodup, ncard_ticketsAt hp.nodup,
    ncard_ticketsAt hp.nodup, ← number_add, Nat.add_assoc]

/-- Whoever asks for a place gets one unless all are taken. -/
theorem Move.response_of_enter (hm : Move hs name .enter next) :
    next.2 = if hs.bulkhead.held < hs.bulkhead.coreSize + hs.bulkhead.queueSize then .admitted
      else .full := by
  cases hm with
  | full hfull => rw [if_neg hfull]
  | entered hroom => rw [if_pos hroom]
  | replaced h hroom hh => rw [if_pos hroom]

theorem names_startAll (hs : Holders) :
    hs.startAll.holders.map Holder.name = hs.holders.map Holder.name := by
  rw [startAll_eq, restaged, List.map_map]
  rfl

/-! ## Runs -/

/-- A bulkhead that is new at first, and the requests made to it. -/
structure Run where
  name : String
  coreSize : Nat
  queueSize : Nat
  request : Nat → String × Request

namespace Run

def state (r : Run) : Nat → Holders
  | 0 => { bulkhead := .new r.name r.coreSize r.queueSize }
  | n + 1 => ((r.state n).perform (r.request n).1 (r.request n).2).1

def response (r : Run) (n : Nat) : Response :=
  ((r.state n).perform (r.request n).1 (r.request n).2).2

/-- Step `n` lines the holder of the ticket up for a slot. -/
def Acquires (r : Run) (n : Nat) (t : Ticket) : Prop :=
  ∃ h, (r.state n).find? (r.request n).1 = some h ∧ h.ticket = t ∧ h.stage = .admitted ∧
    (r.request n).2 = .acquire

/-- In step `n` the holder of the ticket starts. -/
def Starts (r : Run) (n : Nat) (t : Ticket) : Prop :=
  t ∉ (r.state n).ticketsAt .running ∧ t ∈ (r.state (n + 1)).ticketsAt .running

/-- Step `n` gives up what the holder of the ticket has, or gets its name a new place instead. -/
def GivesUp (r : Run) (n : Nat) (t : Ticket) : Prop :=
  (r.state n).GivesUp (r.request n).1 (r.request n).2 (r.response n) t

variable (r : Run) (n : Nat)

theorem settled : (r.state n).Settled := by
  induction n with
  | zero => exact settled_new r.name r.coreSize r.queueSize
  | succ n ih => exact ih.perform _ _

theorem placed : (r.state n).Placed := (r.settled n).placed

/-- Every step is a move, after which everybody starts who can. -/
theorem move : ∃ next, Move (r.state n) (r.request n).1 (r.request n).2 (next, r.response n) ∧
    r.state (n + 1) = next.startAll := by
  obtain ⟨next, hmove, hsame⟩ := perform_move (r.placed n).ticket_lt (r.request n).1 (r.request n).2
  have hresponse : r.response n = next.2 := by rw [response, hsame]
  have hstate : r.state (n + 1) = next.1.startAll := by rw [state, hsame]
  exact ⟨next.1, hresponse ▸ hmove, hstate⟩

theorem sizes : (r.state n).bulkhead.coreSize = r.coreSize ∧
    (r.state n).bulkhead.queueSize = r.queueSize := by
  induction n with
  | zero => exact ⟨rfl, rfl⟩
  | succ n ih =>
    obtain ⟨next, hmove, hnext⟩ := r.move n
    rw [hnext, startAll_coreSize, startAll_kept Bulkhead.queueSize fun _ => rfl]
    exact ⟨hmove.sizes.1.trans ih.1, hmove.sizes.2.trans ih.2⟩

theorem totalCalls_eq : (r.state n).bulkhead.totalCalls =
    (r.state n).bulkhead.totalRejections + Nat.count (fun m => r.response m = .admitted) n := by
  induction n with
  | zero => rfl
  | succ n ih =>
    obtain ⟨next, hmove, hnext⟩ := r.move n
    obtain ⟨hcalls, hrejections⟩ := hmove.totals
    rw [hnext, startAll_kept Bulkhead.totalCalls fun _ => rfl,
      startAll_kept Bulkhead.totalRejections fun _ => rfl, Nat.count_succ]
    simp only at hcalls hrejections
    omega

theorem totalRejections_eq : (r.state n).bulkhead.totalRejections =
    Nat.count (fun m => r.response m = .full) n := by
  induction n with
  | zero => rfl
  | succ n ih =>
    obtain ⟨next, hmove, hnext⟩ := r.move n
    rw [hnext, startAll_kept Bulkhead.totalRejections fun _ => rfl, Nat.count_succ, ← ih]
    exact hmove.totals.2

/-! ### Order -/

variable {r n}

theorem response_of_enter {name : String} (h : r.request n = (name, .enter)) :
    r.response n = if (r.state n).holders.length < r.coreSize + r.queueSize then .admitted
      else .full := by
  obtain ⟨next, hmove, -⟩ := r.move n
  rw [h] at hmove
  have hresponse := hmove.response_of_enter
  rwa [(r.placed n).held_eq, (r.sizes n).1, (r.sizes n).2] at hresponse

/-- Whoever is in line after a move starts, or waits. -/
theorem starts_or_waits {m : Nat} {next : Holders} (hnext : r.state (m + 1) = next.startAll)
    (hrunning : t ∉ (r.state m).ticketsAt .running) (ht : t ∈ next.ticketsAt .acquiring) :
    r.Starts m t ∨ t ∈ (r.state (m + 1)).ticketsAt .acquiring := by
  by_cases hcan : next.bulkhead.canStart t
  · refine .inl ⟨hrunning, ?_⟩
    rw [hnext, mem_ticketsAt_startAll]
    exact .inr ⟨rfl, mem_ready.mpr ⟨ht, hcan⟩⟩
  · rw [hnext, mem_ticketsAt_startAll]
    exact .inr (.inl ⟨ht, fun h => hcan h.2⟩)

theorem notMem_running {m : Nat} {stage : HolderStage} (ht : t ∈ (r.state m).ticketsAt stage)
    (hstage : stage ≠ .running) : t ∉ (r.state m).ticketsAt .running :=
  fun hrunning => hstage ((r.placed m).stage_unique ht hrunning)

/-- Whoever has lined up waits, or has started or given up. -/
theorem Acquires.waits {i m : Nat} (h : r.Acquires i t) (him : i < m) :
    (∃ l, i ≤ l ∧ l < m ∧ (r.Starts l t ∨ r.GivesUp l t)) ∨ t ∈ (r.state m).ticketsAt .acquiring := by
  induction m, him using Nat.le_induction with
  | base =>
    obtain ⟨next, hmove, hnext⟩ := r.move i
    obtain ⟨holder, hfind, rfl, hstage, hreq⟩ := h
    rw [hreq] at hmove
    obtain rfl : next = _ := hmove.eq_linedUp hfind hstage
    have hidle : holder.ticket ∈ (r.state i).ticketsAt .admitted :=
      hstage ▸ mem_ticketsAt (mem_of_find? hfind)
    have hqueued : holder.ticket ∈ ((r.state i).linedUp holder).ticketsAt .acquiring := by
      rw [mem_ticketsAt_linedUp (mem_of_find? hfind), if_pos rfl]
    rcases starts_or_waits hnext (notMem_running hidle (by decide)) hqueued with hstarts | hwaits
    · exact .inl ⟨i, Nat.le_refl i, Nat.lt_succ_self i, .inl hstarts⟩
    · exact .inr hwaits
  | succ m him ih =>
    rcases ih with ⟨l, hil, hlm, hl⟩ | ht
    · exact .inl ⟨l, hil, Nat.lt_succ_of_lt hlm, hl⟩
    · obtain ⟨next, hmove, hnext⟩ := r.move m
      rcases hmove.acquiring ht with hwaits | hgives
      · rcases starts_or_waits hnext (notMem_running ht (by decide)) hwaits with hstarts | hwaits
        · exact .inl ⟨m, Nat.le_of_succ_le him, Nat.lt_succ_self m, .inl hstarts⟩
        · exact .inr hwaits
      · exact .inl ⟨m, Nat.le_of_succ_le him, Nat.lt_succ_self m, .inr hgives⟩

/-- Behind one that waits there is who has lined up later, for as long as it waits. -/
theorem Acquires.behind {j m : Nat} (h : r.Acquires j u) (hjm : j < m)
    (hwaits : ∀ l, j ≤ l → l ≤ m → t ∈ (r.state l).ticketsAt .acquiring) :
    (r.state m).Behind t u := by
  induction m, hjm using Nat.le_induction with
  | base =>
    obtain ⟨next, hmove, hnext⟩ := r.move j
    obtain ⟨holder, hfind, rfl, hstage, hreq⟩ := h
    rw [hreq] at hmove
    obtain rfl : next = _ := hmove.eq_linedUp hfind hstage
    have ht : t ∈ (r.state j).bulkhead.line :=
      ((r.placed j).occupied.mem_line t).mpr (.inl (hwaits j (Nat.le_refl j) (Nat.le_succ j)))
    rw [hnext]
    exact (behind_linedUp (r.placed j) (mem_of_find? hfind) ht).startAll
  | succ m hjm ih =>
    obtain ⟨next, hmove, hnext⟩ := r.move m
    have ht : t ∈ (r.state (m + 1)).bulkhead.line :=
      ((r.placed (m + 1)).occupied.mem_line t).mpr
        (.inl (hwaits (m + 1) (Nat.le_succ_of_le (Nat.le_of_succ_le hjm)) (Nat.le_refl _)))
    rw [hnext, startAll_line] at ht
    rw [hnext]
    have hbehind := ih fun l hjl hlm => hwaits l hjl (Nat.le_succ_of_le hlm)
    exact (hmove.behind (r.placed m) hbehind ht).startAll

theorem notMem_admitted_of_le {k j : Nat} (hkj : k ≤ j) (hu : u < (r.state k).nextTicket)
    (hout : u ∉ (r.state k).ticketsAt .admitted) :
    u < (r.state j).nextTicket ∧ u ∉ (r.state j).ticketsAt .admitted := by
  induction j, hkj using Nat.le_induction with
  | base => exact ⟨hu, hout⟩
  | succ j _ ih =>
    obtain ⟨next, hmove, hnext⟩ := r.move j
    obtain ⟨hknown, hentered⟩ := hmove.notMem_admitted ih.1 ih.2
    rw [hnext]
    refine ⟨hknown, fun hmem => hentered ?_⟩
    simpa [mem_ticketsAt_startAll] using hmem

/-- Nobody starts before it has lined up. -/
theorem Acquires.le_of_starts {j k : Nat} (hu : r.Acquires j u) (hstarts : r.Starts k u) : j ≤ k := by
  by_contra hlt
  obtain ⟨holder, hh, hstage, heq⟩ := hstarts.2
  have hknown : u < (r.state (k + 1)).nextTicket := heq ▸ (r.placed (k + 1)).ticket_lt holder hh
  have hout : u ∉ (r.state (k + 1)).ticketsAt .admitted := fun hmem =>
    notMem_running hmem (by decide) hstarts.2
  obtain ⟨idle, hfind, rfl, hidle, -⟩ := hu
  exact (notMem_admitted_of_le (Nat.lt_of_not_le hlt) hknown hout).2
    (hidle ▸ mem_ticketsAt (mem_of_find? hfind))

/-- Whoever has lined up earlier starts earlier, or gives up before. -/
theorem starts_in_order {i j k : Nat} (ht : r.Acquires i t) (hu : r.Acquires j u) (hij : i < j)
    (hstarts : r.Starts k u) : ∃ l, i ≤ l ∧ l < k ∧ (r.Starts l t ∨ r.GivesUp l t) := by
  by_contra hnever
  have hjk : j ≤ k := hu.le_of_starts hstarts
  have hwaits : ∀ l, i < l → l ≤ k → t ∈ (r.state l).ticketsAt .acquiring := by
    intro l hil hlk
    refine (ht.waits hil).resolve_left ?_
    rintro ⟨m, him, hml, hm⟩
    exact hnever ⟨m, him, Nat.lt_of_lt_of_le hml hlk, hm⟩
  have hlast : t ∈ (r.state k).ticketsAt .acquiring := hwaits k (by omega) (Nat.le_refl k)
  obtain ⟨next, hmove, hnext⟩ := r.move k
  have hfront : u ∈ next.bulkhead.line.take (r.state k).bulkhead.coreSize := by
    have hrun := (r.placed (k + 1)).occupied.front u hstarts.2
    rwa [hnext, startAll_line, startAll_coreSize, hmove.sizes.1] at hrun
  have hnear := hmove.mem_take (r.settled k) hlast hfront
  -- so `u` was next in line, or in front; but it lined up behind `t`, or was not in line yet
  rcases Nat.lt_or_eq_of_le hjk with hjk | rfl
  · have hbehind := hu.behind hjk fun l hjl hlk => hwaits l (by omega) hlk
    have horder := hbehind.order (List.mem_of_mem_take hnear)
    exact Bulkhead.notMem_take_of_behind (r.placed k).occupied.nodup horder
      ((r.settled k).waits t hlast) hnear
  · obtain ⟨holder, hfind, rfl, hstage, -⟩ := hu
    exact (r.placed j).occupied.idle_apart _ (hstage ▸ mem_ticketsAt (mem_of_find? hfind))
      (List.mem_of_mem_take hnear)

/-! ### An empty bulkhead -/

/-- The first to ask for a place in an empty bulkhead have one, as many as there are. -/
theorem names_filled {names : Nat → String} (hnames : names.Injective)
    (hempty : (r.state n).holders = []) (m : Nat)
    (hreq : ∀ i < m, r.request (n + i) = (names i, .enter)) :
    (r.state (n + m)).holders.map Holder.name =
      (List.range (min m (r.coreSize + r.queueSize))).map names := by
  induction m with
  | zero => simp [hempty]
  | succ m ih =>
    have hold := ih fun i hi => hreq i (Nat.lt_succ_of_lt hi)
    have hlength := congrArg List.length hold
    have hroom := (r.placed (n + m)).held_eq
    obtain ⟨hcore, hqueue⟩ := r.sizes (n + m)
    rw [List.length_map, List.length_map, List.length_range] at hlength
    obtain ⟨next, hmove, hnext⟩ := r.move (n + m)
    rw [hreq m (Nat.lt_succ_self m)] at hmove
    rw [← Nat.add_assoc, hnext, names_startAll]
    generalize r.response (n + m) = response at hmove
    cases hmove with
    | full hfull =>
      rw [hcore, hqueue, hroom, hlength] at hfull
      rw [refused, hold, Nat.min_eq_right (by omega), Nat.min_eq_right (by omega)]
    | entered hfree =>
      rw [hcore, hqueue, hroom, hlength] at hfree
      rw [added, List.map_append, hold, Nat.min_eq_left (by omega), Nat.min_eq_left (by omega),
        List.range_succ, List.map_append]
      rfl
    | replaced h hfree hh =>
      have hname : names m ∈ (List.range (min m (r.coreSize + r.queueSize))).map names := by
        rw [← hold]
        exact List.mem_map.mpr ⟨h, mem_of_find? hh, name_of_find? hh⟩
      obtain ⟨i, hi, heq⟩ := List.mem_map.mp hname
      have him : i = m := hnames heq
      have hlt : i < min m (r.coreSize + r.queueSize) := List.mem_range.mp hi
      omega

end Run

/-- At every point of a run the counts of the bulkhead are numbers of holders; there are never more holders
than places, and whoever asks for a place is refused exactly when all are taken. While somebody waits in
line all slots are taken, and whoever starts has nobody before it that lined up earlier. Every call was let
in or refused, and once nobody is left there are as many places as at first. -/
theorem Run.places_conserved (r : Run) (n : Nat) :
    let hs := r.state n
    let places := hs.number .admitted + hs.number .acquiring + hs.number .running
    places ≤ r.coreSize + r.queueSize ∧
      (∀ name, (hs.perform name .enter).2 =
        if places = r.coreSize + r.queueSize then .full else .admitted) ∧
      hs.bulkhead.active = hs.number .running ∧ hs.bulkhead.active ≤ r.coreSize ∧
      hs.bulkhead.waiting = hs.number .admitted + hs.number .acquiring ∧
      (0 < hs.number .acquiring → hs.bulkhead.active = r.coreSize) ∧
      (∀ t u i j, r.Acquires i t → r.Acquires j u → i < j → r.Starts n u →
        ∃ l, i ≤ l ∧ l < n ∧ (r.Starts l t ∨ r.GivesUp l t)) ∧
      hs.bulkhead.totalCalls = hs.bulkhead.totalRejections +
        Nat.count (fun m => r.response m = .admitted) n ∧
      hs.bulkhead.totalRejections = Nat.count (fun m => r.response m = .full) n ∧
      (hs.holders = [] → ∀ names : Nat → String, names.Injective → ∀ m,
        (∀ i ≤ m, r.request (n + i) = (names i, .enter)) →
        (r.response (n + m) = .admitted ↔ m < r.coreSize + r.queueSize)) := by
  intro hs places
  have hp : hs.Placed := r.placed n
  obtain ⟨hcore, hqueue⟩ : hs.bulkhead.coreSize = _ ∧ hs.bulkhead.queueSize = _ := r.sizes n
  have hplaces : hs.bulkhead.held = places := hp.held_eq.trans hs.number_add.symm
  have hnumber := fun stage => ncard_ticketsAt hp.nodup stage
  have hle : places ≤ r.coreSize + r.queueSize := by
    rw [← hplaces, ← hcore, ← hqueue]
    exact hp.occupied.held_le
  refine ⟨hle, fun name => ?_, ?_, ?_, ?_, ?_, ?_, ?_, ?_, ?_⟩
  · refine (enter_move hp.ticket_lt name).response_of_enter.trans ?_
    rw [hcore, hqueue, hplaces]
    by_cases hfull : places = r.coreSize + r.queueSize
    · rw [if_pos hfull, if_neg (by omega)]
    · rw [if_neg hfull, if_pos (by omega)]
  · rw [hp.occupied.active, hnumber]
  · exact hcore ▸ hp.occupied.active_le
  · rw [hp.occupied.waiting, hnumber, hnumber]
  · intro hsome
    obtain ⟨h, hh, hstage⟩ := List.countP_pos_iff.mp hsome
    have hat : h.ticket ∈ hs.ticketsAt .acquiring := ⟨h, hh, by simpa using hstage, rfl⟩
    exact hcore ▸ (r.settled n).active_eq hat
  · exact fun t u i j ht hu hij hstarts => starts_in_order ht hu hij hstarts
  · exact r.totalCalls_eq n
  · exact r.totalRejections_eq n
  · intro hempty names hnames m hreq
    have hfilled := congrArg List.length
      (names_filled hnames hempty m fun i hi => hreq i (Nat.le_of_lt hi))
    rw [List.length_map, List.length_map, List.length_range] at hfilled
    rw [response_of_enter (hreq m (Nat.le_refl m)), hfilled]
    split
    · simp only [true_iff]
      omega
    · simp only [reduceCtorEq, false_iff]
      omega

namespace Sample

/-- Names of any length. -/
def visitor (i : Nat) : String := .ofList (.replicate i 'v')

theorem visitor_injective : visitor.Injective := by
  intro i j h
  have hlength := congrArg List.length (String.ofList_inj.mp h)
  simpa using hlength

/-- A bulkhead of three places, in which two wait for the one slot. Everybody leaves, and others come. -/
def crowdedRun : Run where
  name := "crowded"
  coreSize := 1
  queueSize := 2
  request n :=
    [("a", .enter), ("a", .acquire), ("b", .enter), ("c", .enter), ("d", .enter), ("b", .acquire),
      ("c", .acquire), ("a", .drop), ("b", .drop), ("c", .drop)].getD n (visitor (n - 10), .enter)

end Sample

/-- Two wait for the slot, which is taken. Of them starts first who has lined up first. When all have left
there are three places again. -/
theorem Run.places_conserved_crowdedRun :
    (0 < (Sample.crowdedRun.state 7).number .acquiring ∧
      (Sample.crowdedRun.state 7).bulkhead.active = 1) ∧
    (Sample.crowdedRun.Acquires 5 1 ∧ Sample.crowdedRun.Acquires 6 2 ∧ Sample.crowdedRun.Starts 8 2 ∧
      ∃ l, 5 ≤ l ∧ l < 8 ∧ (Sample.crowdedRun.Starts l 1 ∨ Sample.crowdedRun.GivesUp l 1)) ∧
    ((Sample.crowdedRun.state 10).holders = [] ∧ Sample.crowdedRun.response 12 = .admitted ∧
      Sample.crowdedRun.response 13 ≠ .admitted) := by
  have hwaits : 0 < (Sample.crowdedRun.state 7).number .acquiring := by decide +kernel
  obtain ⟨-, -, -, -, -, htaken, -⟩ := places_conserved Sample.crowdedRun 7
  obtain ⟨-, -, -, -, -, -, horder, -⟩ := places_conserved Sample.crowdedRun 8
  obtain ⟨-, -, -, -, -, -, -, -, -, hagain⟩ := places_conserved Sample.crowdedRun 10
  have hfirst : Sample.crowdedRun.Acquires 5 1 := ⟨⟨"b", 1, .admitted⟩, by decide +kernel⟩
  have hsecond : Sample.crowdedRun.Acquires 6 2 := ⟨⟨"c", 2, .admitted⟩, by decide +kernel⟩
  have hbefore : (Sample.crowdedRun.state 8).holders = [⟨"b", 1, .running⟩, ⟨"c", 2, .acquiring⟩] := by
    decide +kernel
  have hafter : (Sample.crowdedRun.state 9).holders = [⟨"c", 2, .running⟩] := by decide +kernel
  have hstarts : Sample.crowdedRun.Starts 8 2 := by
    simp [Starts, ticketsAt, hbefore, hafter]
  have hempty : (Sample.crowdedRun.state 10).holders = [] := by decide +kernel
  have hvisitors : ∀ i m, i ≤ m → Sample.crowdedRun.request (10 + i) = (Sample.visitor i, .enter) := by
    intro i m _
    simp [Sample.crowdedRun]
  refine ⟨⟨hwaits, htaken hwaits⟩, ⟨hfirst, hsecond, hstarts, ?_⟩, hempty, ?_, ?_⟩
  · exact horder 1 2 5 6 hfirst hsecond (by decide) hstarts
  · exact (hagain hempty _ Sample.visitor_injective 2 fun i => hvisitors i 2).mpr (by decide)
  · exact fun h => absurd ((hagain hempty _ Sample.visitor_injective 3 fun i => hvisitors i 3).mp h)
      (by decide)

end Holders

end ServiceBinding
