import Router.Proofs.Plane.Stages

/-!
# The interface a queued packet leaves through

A packet without an interface is routed by the destination it came with, and once more if NAT gave it another. A
look-up without a route leaves the interface as it is, so a packet for which only the first look-up succeeds keeps
the interface of the route to its old destination. Main statement: a queued packet leaves by the route to its final
destination exactly when there is one, or when there was none at first either (`queued_by_route_iff`); otherwise it
leaves by a route that does not lead there (`queued_by_old_route`).
-/

namespace Router.Plane

variable {pl : Plane} {p : Packet} {now : Nat}

/-- The interface of the route to an address, if there is both. -/
def outlet? (pl : Plane) (a : Option Address) : Option String :=
  (a.bind pl.routing.lookup).map Route.interface

/-! ## Look-ups -/

theorem route_fst (pl : Plane) (p : Packet) :
    (pl.route p).1 = { p with egress := (pl.outlet? p.metadata.destination).getD p.egress } := by
  cases ha : p.metadata.destination with
  | none => simp [route, outlet?, ha]
  | some a => cases hr : pl.routing.lookup a <;> simp [route, outlet?, ha, hr]

/-- NAT does not look at the interface. -/
theorem apply_withEgress (t : NatTable) (now : Nat) (p : Packet) (egress : String) :
    (t.apply now { p with egress }).1 = { (t.apply now p).1 with egress } := by
  have hkey : FlowKey.ofPacket? { p with egress } = FlowKey.ofPacket? p := rfl
  unfold NatTable.apply
  rw [hkey]
  split
  · rfl
  · split
    · rfl
    · split <;> rfl

/-! ## The way to the queue -/

/-- What is translated is routed again exactly if its destination is another. -/
theorem translate_fst (pl : Plane) (now : Nat) (p : Packet) :
    (pl.translate now p true).1 =
      if (pl.nat.apply now p).1.metadata.destination = p.metadata.destination then (pl.nat.apply now p).1
      else (pl.route (pl.nat.apply now p).1).1 := by
  unfold translate
  dsimp only
  split
  · rename_i htuple
    have hdst : (pl.nat.apply now p).1.metadata.destination = p.metadata.destination :=
      congrArg (fun t => t.2.2.1) htuple
    rw [if_pos hdst]
  · by_cases hdst : (pl.nat.apply now p).1.metadata.destination = p.metadata.destination
    · simp [hdst]
    · simp only [hdst, ne_eq, not_false_eq_true, decide_true, Bool.and_self, if_true, if_false]
      rw [route_fst, route_fst]
      rfl

/-- A packet comes to the filter with the interface to its final destination, else with that to its first one. -/
theorem forward_fst (h : p.egress = "") :
    (pl.forward now p).1 =
      { (pl.nat.apply now p).1 with
        egress := (pl.outlet? (pl.nat.apply now p).1.metadata.destination).getD
          ((pl.outlet? p.metadata.destination).getD "") } := by
  have hroute : (pl.route p).1 = { p with egress := (pl.outlet? p.metadata.destination).getD "" } := by
    rw [route_fst, h]
  have houtlet : ∀ a, (pl.route p).2.outlet? a = pl.outlet? a := fun a => by simp [outlet?]
  have hforward : (pl.forward now p).1 = ((pl.route p).2.translate now (pl.route p).1 true).1 := by
    simp [forward, h]
  rw [hforward, translate_fst, route_nat, hroute, apply_withEgress]
  split
  · rename_i hdst
    have hdst : (pl.nat.apply now p).1.metadata.destination = p.metadata.destination := hdst
    rw [hdst]
    cases pl.outlet? p.metadata.destination <;> rfl
  · rw [route_fst, houtlet]

/-- Whoever is queued came through all stages, and was offered to the queues as they were. -/
theorem gained_of_queued {name : String} (h : (pl.process now p).disposition = .queued name) :
    pl.qos.Gained (pl.process now p).plane.qos name (pl.forward now p).1 := by
  unfold process at h ⊢
  dsimp only at h ⊢
  split at h
  · cases h
  · rename_i hverdict
    rw [if_neg hverdict]
    split at h
    · cases h
    · rename_i hdrop
      rw [if_neg hdrop]
      split at h
      · rename_i haccepted
        cases h
        rw [if_pos haccepted]
        simp only [enqueue_fst, enqueue_qos, inspect_qos, filter_qos, forward_qos] at haccepted ⊢
        exact Scheduler.gained_enqueue haccepted
      · cases h

/-- A packet without an interface that was queued is the packet after NAT, with the interface of the route to its
final destination, or without one there that of the route to its first destination. So it leaves by the route to its
final destination exactly if there is one, or if the first look-up gave no interface either. -/
theorem queued_by_route_iff {name : String} (hp : p.egress = "")
    (hq : (pl.process now p).disposition = .queued name) :
    ∃ q, pl.qos.Gained (pl.process now p).plane.qos name q ∧
      q = { (pl.nat.apply now p).1 with egress := q.egress } ∧
      q.egress = (pl.outlet? q.metadata.destination).getD ((pl.outlet? p.metadata.destination).getD "") ∧
      (q.egress = (pl.outlet? q.metadata.destination).getD "" ↔
        (pl.outlet? q.metadata.destination).isSome ∨ (pl.outlet? p.metadata.destination).getD "" = "") := by
  refine ⟨(pl.forward now p).1, gained_of_queued hq, ?_⟩
  rw [forward_fst hp]
  refine ⟨rfl, rfl, ?_⟩
  cases pl.outlet? (pl.nat.apply now p).1.metadata.destination <;> simp

/-! ## A service behind another address -/

/-- A router that lets everything through and hands what comes for `203.0.113.10` to `192.168.1.20`. -/
def serviceRouter (routes : List Route) : Plane :=
  { Plane.new .default 0 with
    routing := .ofList routes
    firewall := Firewall.empty.setDefault .forward .accept
    nat := NatTable.empty.add
      ⟨.destination, none, some (.host (.v4 0xCB00710A)), none, none, .v4 0xC0A80114, none⟩ }

/-- The network that the service is reached by. -/
def outsideRoute : Route :=
  .connected (.around (.v4 0xCB007100) 24) "wan0"

/-- The network that the service stands in. -/
def insideRoute : Route :=
  .connected (.around (.v4 0xC0A80100) 24) "lan0"

/-- A packet to the service. -/
def serviceRequest : Packet :=
  .new [] "eth0" ⟨some (.v4 0x08080808), some (.v4 0xCB00710A), .udp, 5555, 443, 0⟩

/-- With a route to where the service stands, its packets leave there. -/
theorem queued_to_service :
    serviceRequest.egress = "" ∧
    ((serviceRouter [outsideRoute, insideRoute]).process 0 serviceRequest).disposition = .queued "default" ∧
    ∃ q, (serviceRouter [outsideRoute, insideRoute]).qos.Gained
      ((serviceRouter [outsideRoute, insideRoute]).process 0 serviceRequest).plane.qos "default" q ∧
      q.egress = "lan0" := by
  have hq : ((serviceRouter [outsideRoute, insideRoute]).process 0 serviceRequest).disposition =
      .queued "default" := by decide
  obtain ⟨q, hgained, hafter, hegress, -⟩ := queued_by_route_iff rfl hq
  have hmetadata : q.metadata =
      ((serviceRouter [outsideRoute, insideRoute]).nat.apply 0 serviceRequest).1.metadata := by rw [hafter]
  refine ⟨rfl, hq, q, hgained, ?_⟩
  rw [hegress, hmetadata]
  decide

/-- Without one they leave by the route to the address that was replaced. -/
theorem queued_by_old_route :
    ¬ ∀ (pl : Plane) (now : Nat) (p q : Packet) (name : String), p.egress = "" →
      (pl.process now p).disposition = .queued name → pl.qos.Gained (pl.process now p).plane.qos name q →
      q.egress = (pl.outlet? q.metadata.destination).getD "" := by
  intro h
  have hq : ((serviceRouter [outsideRoute]).process 0 serviceRequest).disposition = .queued "default" := by decide
  have hegress := h (serviceRouter [outsideRoute]) 0 serviceRequest _ "default" rfl hq (gained_of_queued hq)
  exact absurd hegress (by decide)

end Router.Plane
