import ServiceBinding.Proofs.Exporters.Publisher
import ServiceBinding.Simulation.World

/-!
# The exporter of the simulated world

While the link of the simulated world is up, what its application calls the exporter for is a call that
makes all its writes at once. Whether it is up or down, the exporter and the registry of the world are
those of an application whose registry may be out of reach.
-/

namespace ServiceBinding

open LeaseRegistry (Outage Write renewNext)

namespace Exporters

variable {ι : Type} {s : Exporters ι} {now : Instant} {k : Ticket} {i : ι} {ws : List Write}

theorem proceed_all (hk : s.pending k = ws) (now : Instant) :
    ws.foldl (fun s _ => s.proceed now k) s =
      { s with
        registry := ws.foldl (fun r w => (r.perform now w).1) s.registry
        pending := Function.update s.pending k [] } := by
  induction ws generalizing s with
  | nil =>
    rw [← hk, Function.update_eq_self, hk]
    rfl
  | cons w ws ih =>
    have hproceed : s.proceed now k = { s with
        registry := (s.registry.perform now w).1
        pending := Function.update s.pending k ws } := by
      rw [proceed, hk]
    rw [List.foldl_cons, hproceed, ih (Function.update_self ..)]
    simp

/-- A call with all its writes, before anything else happens. -/
def callAtOnce [DecidableEq ι] (s : Exporters ι) (now : Instant) (k : Ticket) (i : ι)
    (c : Exporter.Call) : Exporters ι :=
  ((s.exporter i).writes c).foldl (fun s _ => s.proceed now k) (s.beginCall k i c)

theorem callAtOnce_eq [DecidableEq ι] (hfree : s.pending k = []) (now : Instant) (c : Exporter.Call) :
    s.callAtOnce now k i c =
      { s with
        registry := ((s.exporter i).writes c).foldl (fun r w => (r.perform now w).1) s.registry
        exporter := Function.update s.exporter i ((s.exporter i).after c) } := by
  have hbegun : (s.beginCall k i c).pending k = (s.exporter i).writes c := by
    simp [beginCall, hfree]
  rw [callAtOnce, proceed_all hbegun]
  simp [beginCall, hfree]

end Exporters

namespace Simulation.World

variable {w : World} {x : Exporter}

/-- The registry and the exporter of the world, and what calls have still to write. -/
def exporters (w : World) (x : Exporter) (pending : Ticket → List Write) : Exporters Unit :=
  { registry := w.registry, exporter := fun _ => x, pending }

theorem overLink_up (hup : w.link.down = false)
    (op : LeaseRegistry → Except RegistryError LeaseRegistry) :
    (w.overLink op).1 = { w with registry := (w.registry.attempt (op w.registry)).1 } := by
  rw [overLink, hup]
  cases op w.registry with
  | ok registry | error err => rfl

/-- What becomes of a world is what a call of its exporter makes of it, with all its writes. -/
structure Calls (w w' : World) (x : Exporter) (c : Exporter.Call) : Prop where
  exporter : w'.exporter = some (x.after c)
  exporters : ∀ (pending : Ticket → List Write) (k : Ticket), pending k = [] →
    w'.exporters (x.after c) pending = (w.exporters x pending).callAtOnce w.now k () c

theorem Calls.of_registry {w' : World} {c : Exporter.Call} (hexporter : w'.exporter = some (x.after c))
    (hregistry : w'.registry = (x.writes c).foldl (fun r w' => (r.perform w.now w').1) w.registry) :
    Calls w w' x c where
  exporter := hexporter
  exporters pending k hfree := by
    have hupdate : Function.update (fun _ : Unit => x) () (x.after c) = fun _ => x.after c :=
      funext fun _ => Function.update_self ..
    rw [Exporters.callAtOnce_eq hfree, World.exporters, hregistry]
    simp only [World.exporters, hupdate]

theorem publish_calls (hup : w.link.down = false) (hx : w.exporter = some x) (p : Properties) :
    Calls w (w.publish p).1 x (.publish p) := by
  cases hkey : p.key with
  | error err =>
    obtain ⟨hwrites, hafter⟩ := Exporter.refused_publish (x := x) hkey
    apply Calls.of_registry
    · simp [publish, hx, Exporter.remember_of_error hkey, hafter]
    · simp [publish, hx, Exporter.remember_of_error hkey, hwrites]
  | ok key =>
    apply Calls.of_registry
    · simp [publish, hx, Exporter.remember_of_key hkey, Exporter.after_publish hkey, register,
        overLink_up, hup]
    · simp [publish, hx, Exporter.remember_of_key hkey, Exporter.writes_publish hkey, register,
        overLink_up, hup, LeaseRegistry.perform]

theorem withdraw_calls (hup : w.link.down = false) (hx : w.exporter = some x) (key : ServiceKey) :
    Calls w (w.withdraw key).1 x (.withdraw key) := by
  cases hexported : (x.forget key).2 with
  | false =>
    apply Calls.of_registry
    · simp [withdraw, hx, hexported, Exporter.after]
    · simp [withdraw, hx, hexported, Exporter.writes]
  | true =>
    apply Calls.of_registry
    · simp [withdraw, hx, hexported, Exporter.after, deregister, overLink_up, hup]
    · simp [withdraw, hx, hexported, Exporter.writes, deregister, overLink_up, hup,
        LeaseRegistry.perform]

/-- Renewals change the registry alone, whatever is counted on the way. -/
theorem foldl_renew {f : World × Nat → Entry → World × Nat}
    (hf : ∀ s e, (f s e).1 = (s.1.renew .link e).1) (es : List Entry) {s : World × Nat}
    (hup : s.1.link.down = false) :
    (es.foldl f s).1 = { s.1 with
      registry := (es.map Write.renew).foldl (fun r w => (r.perform s.1.now w).1) s.1.registry } := by
  induction es generalizing s with
  | nil => rfl
  | cons e es ih =>
    have hrenew : (f s e).1 =
        { s.1 with registry := (s.1.registry.perform s.1.now (.renew e)).1 } :=
      (hf s e).trans (overLink_up hup _)
    have hup' : (f s e).1.link.down = false := by rw [hrenew, hup]
    rw [List.foldl_cons, ih hup', hrenew]
    rfl

theorem renewAll_calls (hup : w.link.down = false) (hx : w.exporter = some x) :
    Calls w (w.renewAll x).1 x .renewAll := by
  have hworld : (w.renewAll x).1 = { w with
      registry := (x.writes .renewAll).foldl (fun r w' => (r.perform w.now w').1) w.registry } := by
    refine foldl_renew (fun s e => ?_) x.renewals (s := (w, 0)) hup
    rcases s with ⟨w, n⟩
    dsimp only
    generalize w.renew .link e = renewed
    rcases renewed with ⟨w', err | _⟩ <;> rfl
  apply Calls.of_registry
  · rw [hworld]
    exact hx
  · rw [hworld]

/-! ## The link as an outage -/

/-- While the link is down no write reaches the registry. -/
def outage (w : World) : Outage := fun _ => if w.link.down then some "connection refused" else none

/-- The exporter of the world and the registry behind the link. -/
def publisher (w : World) (x : Exporter) : Publisher := { registry := w.registry, exporter := x }

/-- The world in which these have become of its exporter and its registry. -/
def become (w : World) (s : Publisher) : World :=
  { w with registry := s.registry, exporter := some s.exporter }

theorem overLink_eq (w : World) {op : LeaseRegistry → Except RegistryError LeaseRegistry} (wr : Write)
    (h : w.registry.perform w.now wr = w.registry.attempt (op w.registry)) :
    w.overLink op =
      ({ w with registry := (w.registry.attemptOver w.outage w.now wr).1 },
        (w.registry.attemptOver w.outage w.now wr).2) := by
  rw [overLink, LeaseRegistry.attemptOver, outage]
  cases w.link.down with
  | true => rfl
  | false =>
    simp only [h, Bool.false_eq_true, if_false]
    cases op w.registry with
    | ok registry | error err => rfl

theorem publish_eq (hx : w.exporter = some x) (p : Properties) :
    w.publish p =
      (w.become ((w.publisher x).publish w.outage w.now p).1,
        some ((w.publisher x).publish w.outage w.now p).2) := by
  cases hremember : x.remember p with
  | error err =>
    simp only [publish, hx, publisher, Publisher.publish, hremember, become]
    rw [← hx]
  | ok remembered =>
    obtain ⟨x', e⟩ := remembered
    simp only [publish, hx, publisher, Publisher.publish, hremember, register]
    rw [overLink_eq _ (.register e) rfl]
    rfl

theorem withdraw_eq (hx : w.exporter = some x) (key : ServiceKey) :
    w.withdraw key =
      (w.become ((w.publisher x).withdraw w.outage w.now key).1,
        some ((w.publisher x).withdraw w.outage w.now key).2) := by
  cases hexported : (x.forget key).2 with
  | false => simp [withdraw, hx, publisher, Publisher.withdraw, hexported, become]
  | true =>
    simp only [withdraw, hx, publisher, Publisher.withdraw, hexported, deregister, if_true]
    rw [overLink_eq _ (.deregister key x.settings.instanceId) rfl]
    rfl

/-- A round over the link is a round of the registry behind it. -/
theorem foldl_renewNext {f : World × Nat → Entry → World × Nat}
    (hf : ∀ w n e, f (w, n) e =
      ({ w with registry := (renewNext w.outage w.now (w.registry, n) e).1 },
        (renewNext w.outage w.now (w.registry, n) e).2))
    (w : World) (n : Nat) (es : List Entry) :
    es.foldl f (w, n) =
      ({ w with registry := (es.foldl (renewNext w.outage w.now) (w.registry, n)).1 },
        (es.foldl (renewNext w.outage w.now) (w.registry, n)).2) := by
  induction es generalizing w n with
  | nil => rfl
  | cons e es ih =>
    rw [List.foldl_cons, hf, ih, List.foldl_cons]
    rfl

theorem renewAll_eq (hx : w.exporter = some x) :
    w.renewAll x =
      (w.become ((w.publisher x).renewAll w.outage w.now).1,
        ((w.publisher x).renewAll w.outage w.now).2) := by
  rw [renewAll, foldl_renewNext]
  · simp only [publisher, Publisher.renewAll, become]
    rw [← hx]
  · intro w n e
    simp only [renew]
    rw [overLink_eq w (.renew e) rfl, renewNext]
    generalize w.registry.attemptOver w.outage w.now (.renew e) = renewed
    obtain ⟨r, err | _⟩ := renewed <;> rfl

end Simulation.World

end ServiceBinding
