import Mathlib.Algebra.Ring.Nat
import Router.Proofs.Plane.Operations
import Router.Proofs.Plane.Outlet

/-!
# Packets without a route

Each look-up of a destination without a route is counted (`noRoute_route`), and a packet to which NAT gives another
destination is looked up twice (`noRoute_translate`). Of all stages only these count so (`noRoute_process_eq`), and of all
operations only those that process packets do (`noRoute_operate`), whose passages through the router are kept in order
(`PlaneState.passages`). Main statement: the count tells the packets without a route to their final destination exactly
if none was looked up in vain before NAT gave it another destination (`unrouted_counted_iff`); such a packet is counted
once more (`unrouted_counted_twice`).
-/

namespace Router

namespace Plane

variable {pl : Plane} {now : Nat} {p : Packet} {c : Counter}

/-- How many look-ups found no route. -/
def noRoute (pl : Plane) : UInt64 :=
  pl.metrics.totals.noRoute

/-- Whether there is a destination without a route to it. -/
def lacksRoute (pl : Plane) (a : Option Address) : Bool :=
  a.any fun a => (pl.routing.lookup a).isNone

/-! ## The stages -/

theorem noRoute_count (pl : Plane) (hc : c ≠ .noRoute) : (pl.count c).noRoute = pl.noRoute := by
  cases c <;> first | rfl | exact absurd rfl hc

theorem noRoute_route (pl : Plane) (p : Packet) :
    (pl.route p).2.noRoute = pl.noRoute + UInt64.ofNat (pl.lacksRoute p.metadata.destination).toNat := by
  unfold route lacksRoute
  cases p.metadata.destination with
  | none => exact (UInt64.add_zero _).symm
  | some a =>
    dsimp only [Option.any_some]
    cases pl.routing.lookup a with
    | none => rfl
    | some route => exact (UInt64.add_zero _).symm

theorem noRoute_translate (pl : Plane) (now : Nat) (p : Packet) (rerouted : Bool) :
    let destination := (pl.nat.apply now p).1.metadata.destination
    (pl.translate now p rerouted).2.noRoute =
      pl.noRoute + UInt64.ofNat
        (rerouted && decide (destination ≠ p.metadata.destination) && pl.lacksRoute destination).toNat := by
  intro destination
  unfold translate
  dsimp only
  split
  · rename_i htuple
    have hsame : destination = p.metadata.destination := congrArg (fun t => t.2.2.1) htuple
    simp [hsame, noRoute]
  · have hcount : ({ pl with nat := (pl.nat.apply now p).2 }.count .natTranslated).noRoute = pl.noRoute :=
      noRoute_count _ (by decide)
    split
    · rename_i hrerouted
      rw [noRoute_route, hcount, hrerouted, Bool.true_and]
      rfl
    · rename_i hrerouted
      have hkept : (rerouted && decide (destination ≠ p.metadata.destination)) = false := Bool.eq_false_iff.2 hrerouted
      rw [hcount, hkept]
      exact (UInt64.add_zero _).symm

theorem noRoute_filter (pl : Plane) (p : Packet) : (pl.filter p).2.noRoute = pl.noRoute := by
  have hcounter : ∀ verdict, verdictCounter verdict ≠ .noRoute := fun verdict => by cases verdict <;> decide
  exact noRoute_count { pl with firewall := _ } (hcounter _)

theorem noRoute_inspect (pl : Plane) (now : Nat) (p : Packet) : (pl.inspect now p).2.noRoute = pl.noRoute := by
  unfold inspect
  dsimp only
  split <;> rfl

theorem noRoute_enqueue (pl : Plane) (p : Packet) : (pl.enqueue p).2.noRoute = pl.noRoute := by
  unfold enqueue
  dsimp only
  split <;> split <;> rfl

/-- After NAT nothing is looked up. -/
theorem noRoute_process_eq (pl : Plane) (now : Nat) (p : Packet) :
    (pl.process now p).plane.noRoute = (pl.forward now p).2.noRoute := by
  unfold process
  dsimp only
  split
  · rw [noRoute_inspect, noRoute_filter]
  · split
    · rw [noRoute_count _ (by decide), noRoute_inspect, noRoute_filter]
    · split <;> rw [noRoute_enqueue, noRoute_inspect, noRoute_filter]

theorem noRoute_send (m : Metrics) (sends : Nat → Frame → Bool) (number : Nat) (packets : List Packet) :
    (send m sends number packets).2.totals.noRoute = m.totals.noRoute := by
  induction packets generalizing m number with
  | nil => rfl
  | cons p rest ih =>
    rw [send]
    split <;> exact ih _ _

theorem noRoute_egressRounds (pl : Plane) (now batch : Nat) (sends : Nat → Frame → Bool) (rounds : Nat) :
    (egressRounds now batch sends rounds pl).plane.noRoute = pl.noRoute := by
  induction rounds generalizing pl with
  | zero => rfl
  | succ rounds ih =>
    have hfirst : (pl.egressOnce now batch sends).plane.noRoute = pl.noRoute := noRoute_send pl.metrics sends 0 _
    rw [egressRounds]
    dsimp only
    split
    · exact hfirst
    · rw [ih, hfirst]

end Plane

/-! ## One packet -/

/-- A packet that comes to a router at a time. -/
structure Transit where
  plane : Plane
  now : Nat
  packet : Packet

namespace Transit

/-- The router after the packet. -/
def after (x : Transit) : Plane :=
  (x.plane.process x.now x.packet).plane

/-- Where the packet goes after NAT. -/
def destination (x : Transit) : Option Address :=
  (x.plane.nat.apply x.now x.packet).1.metadata.destination

/-- Whether the packet is to be routed, and there is no route to its final destination. -/
def isUnrouted (x : Transit) : Bool :=
  x.packet.egress = "" && x.plane.lacksRoute x.destination

/-- Whether the packet is to be routed, there is no route to the destination that it came with, and NAT gives it
another one. -/
def isAstray (x : Transit) : Bool :=
  x.packet.egress = "" && x.plane.lacksRoute x.packet.metadata.destination &&
    x.destination ≠ x.packet.metadata.destination

/-- An unrouted packet counts, and one that was astray counts for that as well. -/
theorem noRoute_after (x : Transit) :
    x.after.noRoute = x.plane.noRoute + UInt64.ofNat (x.isUnrouted.toNat + x.isAstray.toNat) := by
  obtain ⟨pl, now, p⟩ := x
  rw [after, Plane.noRoute_process_eq, Plane.forward]
  dsimp only
  split
  · rename_i hegress
    have hdestination : ((pl.route p).2.nat.apply now (pl.route p).1).1.metadata.destination =
        (pl.nat.apply now p).1.metadata.destination := by
      rw [Plane.route_nat, Plane.route_fst, Plane.apply_withEgress]
    have hfirst : (pl.route p).1.metadata = p.metadata := by rw [Plane.route_fst]
    have hlacks : (pl.route p).2.lacksRoute = pl.lacksRoute := by
      funext a
      rw [Plane.lacksRoute, Plane.route_routing, Plane.lacksRoute]
    rw [Plane.noRoute_translate, Plane.noRoute_route, hdestination, hfirst, hlacks, UInt64.add_assoc,
      ← UInt64.ofNat_add]
    congr 2
    simp only [isUnrouted, isAstray, destination, hegress, decide_true, Bool.true_and]
    -- The second look-up asks for the same as the first unless NAT changed the destination.
    by_cases hsame : (pl.nat.apply now p).1.metadata.destination = p.metadata.destination
    · simp [hsame]
    · simp [hsame, Nat.add_comm]
  · rename_i hegress
    rw [Plane.noRoute_translate]
    simp [isUnrouted, isAstray, hegress]

end Transit

/-! ## Every run -/

/-- The packets of arrivals from a turn on, each with the router that it comes to. -/
def Plane.transits (w : Watch) (turn : Nat) (pl : Plane) (c : Capture) : List Arrival → List Transit
  | [] => []
  | arrival :: pending =>
    match w.signal turn with
    | .raised | .dropped => []
    | .lowered =>
      match arrival.read c.ingress c.handedOut with
      | .ok p =>
        let r := pl.receive (w.clock turn) p
        let c := { c with handedOut := c.handedOut + 1 }.release r.discarded.toList
        ⟨{ pl with metrics := pl.metrics.received p.ingress p.length }, w.clock turn, p⟩ ::
          transits w (turn + 1) r.plane c pending
      | .error e => if e.isDatagramFault then transits w (turn + 1) (pl.count .rxErrors) c pending else []

namespace PlaneState

open Transit

variable {s : PlaneState}

/-- The packets that an operation processes, each with the router that it comes to. -/
def transitsOf (s : PlaneState) : Operation → List Transit
  | .event (.process p) => [⟨s.plane, s.now, p⟩]
  | .ingest c waits signal => s.plane.transits ⟨Watch.readings s.now waits, signal⟩ 0 c c.pending
  | _ => []

/-- The packets that operations process, in order, each with the router that it comes to. -/
def transits (s : PlaneState) : List Operation → List Transit
  | [] => []
  | o :: rest => s.transitsOf o ++ (s.operate o).transits rest

/-- How many look-ups find no route for packets. -/
def vain (transits : List Transit) : Nat :=
  transits.countP isUnrouted + transits.countP isAstray

theorem vain_append (transits others : List Transit) : vain (transits ++ others) = vain transits + vain others := by
  rw [vain, List.countP_append, List.countP_append, vain, vain]
  omega

theorem vain_singleton (x : Transit) : vain [x] = x.isUnrouted.toNat + x.isAstray.toNat := by
  rw [vain, List.countP_singleton, List.countP_singleton]
  cases x.isUnrouted <;> cases x.isAstray <;> rfl

theorem noRoute_ingestArrivals (pl : Plane) (w : Watch) (turn : Nat) (c : Capture) (pending : List Arrival) :
    (Plane.ingestArrivals w turn pl c pending).plane.noRoute =
      pl.noRoute + UInt64.ofNat (vain (pl.transits w turn c pending)) := by
  have hnone : ∀ pl : Plane, pl.noRoute = pl.noRoute + UInt64.ofNat (vain []) := fun _ => (UInt64.add_zero _).symm
  induction pending generalizing turn pl c with
  | nil => exact hnone pl
  | cons arrival pending ih =>
    rw [Plane.ingestArrivals, Plane.transits]
    cases w.signal turn with
    | raised | dropped => exact hnone pl
    | lowered =>
      cases arrival.read c.ingress c.handedOut with
      | ok p =>
        let x : Transit := ⟨{ pl with metrics := pl.metrics.received p.ingress p.length }, w.clock turn, p⟩
        have hafter : (pl.receive (w.clock turn) p).plane.noRoute = pl.noRoute + UInt64.ofNat (vain [x]) := by
          rw [vain_singleton]
          exact x.noRoute_after
        dsimp only
        rw [ih, hafter, UInt64.add_assoc, ← UInt64.ofNat_add, ← vain_append]
        rfl
      | error e =>
        cases e with
        | closed => exact hnone pl
        | _ =>
          dsimp only
          split
          · rw [ih, Plane.noRoute_count pl (by decide)]
          · exact hnone pl

/-- An operation counts what is looked up in vain for the packets that it processes. -/
theorem noRoute_operate (s : PlaneState) (o : Operation) :
    (s.operate o).plane.noRoute = s.plane.noRoute + UInt64.ofNat (vain (s.transitsOf o)) := by
  have hnone : s.plane.noRoute = s.plane.noRoute + UInt64.ofNat (vain []) := (UInt64.add_zero _).symm
  cases o with
  | event e =>
    cases e with
    | process p =>
      rw [transitsOf, vain_singleton]
      exact Transit.noRoute_after ⟨s.plane, s.now, p⟩
    | egress batch sends =>
      have hsend : (s.plane.egressOnce s.now batch sends).plane.noRoute = s.plane.noRoute :=
        Plane.noRoute_send s.plane.metrics sends 0 _
      exact hsend.trans hnone
    | wait duration => exact hnone
  | ingest c waits signal => exact noRoute_ingestArrivals s.plane _ 0 c c.pending
  | egress batch sends done =>
    rw [operate, Plane.egress]
    cases done with
    | true => exact hnone
    | false => exact (Plane.noRoute_egressRounds s.plane s.now batch sends _).trans hnone
  | maintain flowTimeout done =>
    rw [operate, Plane.maintain]
    cases done <;> exact hnone
  | routing | firewall | nat | qos | ids | install => exact hnone

theorem noRoute_operateAll (s : PlaneState) (operations : List Operation) :
    (s.operateAll operations).plane.noRoute = s.plane.noRoute + UInt64.ofNat (vain (s.transits operations)) := by
  induction operations generalizing s with
  | nil => exact (UInt64.add_zero _).symm
  | cons o rest ih =>
    have hrest := ih (s.operate o)
    rw [noRoute_operate, UInt64.add_assoc, ← UInt64.ofNat_add, ← vain_append] at hrest
    exact hrest

theorem add_ofNat_eq_self_iff (a : UInt64) (n : Nat) : a + UInt64.ofNat n = a ↔ 2 ^ 64 ∣ n := by
  rw [UInt64.add_eq_left, UInt64.ofNat_eq_iff_mod_eq_toNat]
  exact Nat.dvd_iff_mod_eq_zero.symm

/-- A packet counts once if it is to be routed and there is no route to its final destination, and not at all
otherwise, exactly if it was not astray. Over any run the count grows by the unrouted packets and those that were
astray, and so by the unrouted ones alone exactly if none was astray, modulo `2 ^ 64`. -/
theorem unrouted_counted_iff (s : PlaneState) (operations : List Operation) :
    (∀ x : Transit, x.after.noRoute = x.plane.noRoute + UInt64.ofNat x.isUnrouted.toNat ↔ x.isAstray = false) ∧
      (s.operateAll operations).plane.noRoute = s.plane.noRoute + UInt64.ofNat
        ((s.transits operations).countP isUnrouted + (s.transits operations).countP isAstray) ∧
      ((s.operateAll operations).plane.noRoute =
          s.plane.noRoute + UInt64.ofNat ((s.transits operations).countP isUnrouted) ↔
        2 ^ 64 ∣ (s.transits operations).countP isAstray) := by
  have hrun := s.noRoute_operateAll operations
  rw [vain] at hrun
  refine ⟨fun x => ?_, hrun, ?_⟩
  · rw [x.noRoute_after, UInt64.ofNat_add, ← UInt64.add_assoc, add_ofNat_eq_self_iff]
    cases x.isAstray <;> decide
  · rw [hrun, UInt64.ofNat_add, ← UInt64.add_assoc, add_ofNat_eq_self_iff]

/-! ## A service without a route -/

/-- A packet to a service behind another address, in a router with these routes. -/
def serviceTransit (routes : List Route) : Transit :=
  ⟨Plane.serviceRouter routes, 0, Plane.serviceRequest⟩

/-- With a route to the address that the service is reached by, its packet counts once for the one that is missing. -/
theorem unrouted_counted_once :
    (serviceTransit [Plane.outsideRoute]).isAstray = false ∧
      (serviceTransit [Plane.outsideRoute]).after.noRoute = 1 := by
  have hkept : (serviceTransit [Plane.outsideRoute]).isAstray = false := by decide
  obtain ⟨hcounted, -⟩ := unrouted_counted_iff ⟨Plane.serviceRouter [Plane.outsideRoute], 0⟩ []
  refine ⟨hkept, ?_⟩
  rw [(hcounted _).2 hkept]
  decide

/-- Without any route the one packet counts twice. -/
theorem unrouted_counted_twice :
    ¬ ∀ x : Transit, x.packet.egress = "" → x.packet.metadata.destination.isSome = true →
      x.after.noRoute = x.plane.noRoute + UInt64.ofNat x.isUnrouted.toNat := by
  intro h
  exact absurd (h (serviceTransit []) rfl rfl) (by decide)

end PlaneState

end Router
