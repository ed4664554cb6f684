import Mathlib.Order.Monotone.Basic
import Router.Proofs.Detection.History
import Router.Proofs.Firewall
import Router.Proofs.Nat.History
import Router.Proofs.Plane.Ledger
import Router.Proofs.Routing
import Router.Proofs.Shaping.Order

/-!
# Every router that there can be

A router is told what its engines can be told, one by one, and what concerns it as a whole: packets and batches, the
loops, upkeep, and the configuration of a snapshot (`PlaneState.operate`). What comes of a router without any rule in
this way is reachable. Packets change neither routes nor classes (`Plane.Orderly.process`, `Plane.Orderly.ingest`,
`Plane.Orderly.egress`). Main statement: the copy of the routes by preference is always that of the routes, and the
classes are in order under distinct names, the default one last (`Plane.Reachable.orderly`).
-/

namespace Router

/-! ## What every router keeps -/

namespace Plane

variable {pl pl' : Plane} {now : Nat}

/-- The engines that keep something in order have it in order. -/
structure Orderly (pl : Plane) : Prop where
  routing : pl.routing = .ofList pl.routing.routes
  named : pl.qos.Named
  inOrder : pl.qos.InOrder

theorem orderly_new (config : DetectorConfig) (now : Nat) : (new config now).Orderly :=
  ⟨rfl, Scheduler.named_new now, Scheduler.inOrder_new now⟩

/-- What changes neither the routes nor the classes leaves both in order. -/
theorem Orderly.of_classes (h : pl.Orderly) (hrouting : pl'.routing = pl.routing)
    (hclasses : pl'.qos.classes = pl.qos.classes) : pl'.Orderly where
  routing := by rw [hrouting, ← h.routing]
  named := h.named.of_classes hclasses
  inOrder := h.inOrder.of_classes hclasses

theorem Orderly.process (h : pl.Orderly) (now : Nat) (p : Packet) : (pl.process now p).plane.Orderly := by
  obtain ⟨counted, -, hsettled⟩ := pl.settled_process now p
  exact h.of_classes (pl.process_routing now p) hsettled.classes

theorem Orderly.receive (h : pl.Orderly) (now : Nat) (p : Packet) : (pl.receive now p).plane.Orderly := by
  have hcounted : { pl with metrics := pl.metrics.received p.ingress p.length }.Orderly := h.of_classes rfl rfl
  exact hcounted.process now p

theorem Orderly.egressOnce (h : pl.Orderly) (now batch : Nat) (sends : Nat → Frame → Bool) :
    (pl.egressOnce now batch sends).plane.Orderly :=
  h.of_classes rfl (pl.classes_egressOnce now batch sends)

theorem Orderly.install (h : pl.Orderly) (now : Nat) (s : Snapshot) : (pl.install now s).1.Orderly where
  routing := rfl
  named := h.named.replace now s.qosClasses
  inOrder := Scheduler.inOrder_of_rankAll (Scheduler.queues_replace h.named now s.qosClasses)

theorem Orderly.ingestArrivals (h : pl.Orderly) (w : Watch) (turn : Nat) (c : Capture) (pending : List Arrival) :
    (ingestArrivals w turn pl c pending).plane.Orderly := by
  induction pending generalizing turn pl c with
  | nil => exact h
  | cons arrival pending ih =>
    rw [Plane.ingestArrivals]
    split
    · exact h
    · exact h
    · split
      · rename_i p _
        exact ih (h.receive (w.clock turn) p) _ _
      · exact h
      · split
        · have hcounted : (pl.count .rxErrors).Orderly := h.of_classes rfl rfl
          exact ih hcounted _ _
        · exact h

theorem Orderly.ingest (h : pl.Orderly) (w : Watch) (c : Capture) : (pl.ingest w c).plane.Orderly :=
  h.ingestArrivals w 0 c c.pending

theorem Orderly.egressRounds (h : pl.Orderly) (now batch : Nat) (sends : Nat → Frame → Bool) (rounds : Nat) :
    (egressRounds now batch sends rounds pl).plane.Orderly := by
  induction rounds generalizing pl with
  | zero => exact h
  | succ rounds ih =>
    have hfirst := h.egressOnce now batch sends
    rw [Plane.egressRounds]
    dsimp only
    split
    · exact hfirst
    · exact ih hfirst

theorem Orderly.egress (h : pl.Orderly) (now batch : Nat) (sends : Nat → Frame → Bool) (done : Bool) :
    (pl.egress now batch sends done).plane.Orderly := by
  unfold Plane.egress
  split
  · exact h
  · exact h.egressRounds now batch sends _

theorem Orderly.maintain (h : pl.Orderly) (now flowTimeout : Nat) (done : Bool) :
    (pl.maintain now flowTimeout done).Orderly := by
  unfold Plane.maintain
  split
  · exact h
  · exact h.of_classes rfl rfl

end Plane

/-! ## Operations -/

/-- The readings of a clock that goes on by `waits` before each turn. -/
def Watch.readings (now : Nat) (waits : Nat → Nat) : Nat → Nat
  | 0 => now + waits 0
  | turn + 1 => readings now waits turn + waits (turn + 1)

theorem Watch.le_readings (now : Nat) (waits : Nat → Nat) : now ≤ readings now waits 0 :=
  Nat.le_add_right _ _

theorem Watch.monotone_readings (now : Nat) (waits : Nat → Nat) : Monotone (readings now waits) :=
  monotone_nat_of_le_succ fun _ => Nat.le_add_right _ _

/-- What a router can be told, through its engines or as a whole. All engines have one clock, so that time that goes by
for one of them goes by for all. -/
inductive Operation
  | routing (e : RoutingEvent)
  | firewall (e : FirewallEvent)
  | nat (e : NatEvent)
  | qos (e : ShapingEvent)
  | ids (e : DetectorEvent)
  | event (e : PlaneEvent)
  /-- Packets are read and processed until the source closes or fails or the loop is to stop; time goes by before each
  of them. -/
  | ingest (c : Capture) (waits : Nat → Nat) (signal : Nat → Signal)
  /-- Batches are sent until none may leave. -/
  | egress (batch : Nat) (sends : Nat → Frame → Bool) (done : Bool)
  | maintain (flowTimeout : Nat) (done : Bool)
  | install (s : Snapshot)

namespace PlaneState

/-- The state after an operation. -/
def operate (s : PlaneState) : Operation → PlaneState
  | .routing e => { s with plane := { s.plane with routing := s.plane.routing.step e } }
  | .firewall e => { s with plane := { s.plane with firewall := s.plane.firewall.step e } }
  | .nat e =>
    let t := NatState.step ⟨s.plane.nat, s.now⟩ e
    ⟨{ s.plane with nat := t.table }, t.now⟩
  | .qos e =>
    let t := ShapingState.step ⟨s.plane.qos, s.now⟩ e
    ⟨{ s.plane with qos := t.scheduler }, t.now⟩
  | .ids e =>
    let t := DetectorState.step ⟨s.plane.ids, s.now⟩ e
    ⟨{ s.plane with ids := t.detector }, t.now⟩
  | .event e => s.step e
  | .ingest c waits signal =>
    let w : Watch := ⟨Watch.readings s.now waits, signal⟩
    ⟨(s.plane.ingest w c).plane, w.clock c.pending.length⟩
  | .egress batch sends done => { s with plane := (s.plane.egress s.now batch sends done).plane }
  | .maintain flowTimeout done => { s with plane := s.plane.maintain s.now flowTimeout done }
  | .install snapshot => { s with plane := (s.plane.install s.now snapshot).1 }

/-- The state after operations. -/
def operateAll (s : PlaneState) (operations : List Operation) : PlaneState :=
  operations.foldl operate s

/-- A router without any rule, with these addresses of its own. -/
def start (config : DetectorConfig) (localAddresses : List Address) (now : Nat) : PlaneState :=
  ⟨{ Plane.new config now with localAddresses }, now⟩

variable {s : PlaneState}

theorem orderly_step (h : s.plane.Orderly) (e : PlaneEvent) : (s.step e).plane.Orderly := by
  cases e with
  | process p => exact h.process s.now p
  | egress batch sends => exact h.egressOnce s.now batch sends
  | wait duration => exact h

theorem orderly_operate (h : s.plane.Orderly) (o : Operation) : (s.operate o).plane.Orderly := by
  cases o with
  | routing e =>
    refine ⟨?_, h.named, h.inOrder⟩
    have hstep : s.plane.routing.step e = .ofList (e.enter s.plane.routing.routes) := by
      rw [h.routing]
      exact RoutingTable.step_ofList _ e
    rw [operate, hstep]
    rfl
  | qos e =>
    exact ⟨h.routing, ShapingState.named_step (s := ⟨s.plane.qos, s.now⟩) h.named e,
      ShapingState.inOrder_step (s := ⟨s.plane.qos, s.now⟩) h.named h.inOrder e⟩
  | firewall e | nat e | ids e => exact h.of_classes rfl rfl
  | event e => exact orderly_step h e
  | ingest c waits signal => exact h.ingest _ c
  | egress batch sends done => exact h.egress s.now batch sends done
  | maintain flowTimeout done => exact h.maintain s.now flowTimeout done
  | install snapshot => exact h.install s.now snapshot

theorem orderly_operateAll (h : s.plane.Orderly) (operations : List Operation) :
    (s.operateAll operations).plane.Orderly := by
  induction operations generalizing s with
  | nil => exact h
  | cons o rest ih => exact ih (orderly_operate h o)

end PlaneState

namespace Plane

/-- A router that comes of one without any rule. -/
def Reachable (pl : Plane) : Prop :=
  ∃ config localAddresses born operations,
    ((PlaneState.start config localAddresses born).operateAll operations).plane = pl

/-- Whatever a router is told, its routes and classes are in order. -/
theorem Reachable.orderly {pl : Plane} (h : pl.Reachable) : pl.Orderly := by
  obtain ⟨config, localAddresses, born, operations, rfl⟩ := h
  have hstart : (PlaneState.start config localAddresses born).plane.Orderly :=
    (orderly_new config born).of_classes rfl rfl
  exact PlaneState.orderly_operateAll hstart operations

end Plane

end Router
