import Router.Proofs.Detection.Windows
import Router.Proofs.Plane.Ledger
import Router.Proofs.Plane.Outlet

/-!
# The sentry of a router

Of a router only the detector and the flows have a say in what is detected. They are its sentry, with the count of
alerts (`Plane.sentry`). Each stage but NAT and the detector leaves the sentry as it is (`sentry_route`,
`sentry_filter`, `sentry_enqueue`), and neither of the two looks at the interface that a packet is to leave through. So
what is said of a packet, and the sentry after it, are those of the sentry alone (`detection_process`,
`sentry_process`). Main statement: routers with the same detector and the same flows say the same of the same packets,
keep the same alerts and count as many, whatever else they are (`PlaneState.detections_eq`).
-/

namespace Router

/-- What has a say in what is detected, and how often an alert was counted. -/
structure Sentry where
  ids : Detector
  nat : NatTable
  alerted : UInt64

namespace Sentry

/-- What is said of a packet, which is inspected after NAT. -/
def detection (s : Sentry) (now : Nat) (p : Packet) : Detection :=
  (s.ids.detect now (s.nat.apply now p).1).1

/-- The sentry after a packet. -/
def after (s : Sentry) (now : Nat) (p : Packet) : Sentry where
  ids := (s.ids.detect now (s.nat.apply now p).1).2
  nat := (s.nat.apply now p).2
  alerted := if (s.detection now p).alert.isSome then s.alerted + 1 else s.alerted

end Sentry

namespace Plane

variable {pl : Plane} {now : Nat} {p : Packet} {c : Counter}

/-- The sentry of a router. -/
def sentry (pl : Plane) : Sentry :=
  ⟨pl.ids, pl.nat, pl.metrics.totals.idsAlerts⟩

/-! ## The stages -/

theorem sentry_count (pl : Plane) (hc : c ≠ .idsAlerts) : (pl.count c).sentry = pl.sentry := by
  have halerted : (pl.metrics.inc c).totals.get .idsAlerts = pl.metrics.totals.get .idsAlerts := by
    simp [Metrics.inc, Metrics.add, Totals.get_add, hc.symm]
  simpa [sentry, count, Totals.get] using halerted

theorem sentry_route (pl : Plane) (p : Packet) : (pl.route p).2.sentry = pl.sentry := by
  obtain ⟨_, h⟩ | h := pl.route_cases p
  · rw [h]
  · rw [h]
    exact pl.sentry_count (by decide)

/-- A look-up gives a packet an interface, or leaves it the one it has. -/
theorem route_packet (pl : Plane) (p : Packet) : ∃ egress, (pl.route p).1 = { p with egress } :=
  ⟨_, pl.route_fst p⟩

/-- NAT tracks flows without a look at the interface. -/
theorem flows_withEgress (t : NatTable) (now : Nat) (p : Packet) (egress : String) :
    (t.apply now { p with egress }).2 = (t.apply now p).2 := by
  have hkey : FlowKey.ofPacket? { p with egress } = FlowKey.ofPacket? p := rfl
  unfold NatTable.apply
  rw [hkey]
  split
  · rfl
  · split <;> rfl

theorem sentry_translate (pl : Plane) (now : Nat) (p : Packet) (rerouted : Bool) :
    (pl.translate now p rerouted).2.sentry = { pl.sentry with nat := (pl.nat.apply now p).2 } := by
  have htranslated : ({ pl with nat := (pl.nat.apply now p).2 }.count .natTranslated).sentry =
      { pl.sentry with nat := (pl.nat.apply now p).2 } := sentry_count _ (by decide)
  unfold translate
  dsimp only
  split
  · rfl
  · split
    · rw [sentry_route, htranslated]
    · exact htranslated

theorem translate_packet (pl : Plane) (now : Nat) (p : Packet) (rerouted : Bool) :
    ∃ egress, (pl.translate now p rerouted).1 = { (pl.nat.apply now p).1 with egress } := by
  unfold translate
  dsimp only
  split
  · exact ⟨_, rfl⟩
  · split
    · exact route_packet _ _
    · exact ⟨_, rfl⟩

theorem sentry_forward (pl : Plane) (now : Nat) (p : Packet) :
    (pl.forward now p).2.sentry = { pl.sentry with nat := (pl.nat.apply now p).2 } := by
  unfold forward
  split
  · obtain ⟨egress, hegress⟩ := pl.route_packet p
    dsimp only
    rw [sentry_translate, sentry_route, route_nat, hegress, flows_withEgress]
  · exact pl.sentry_translate now p false

/-- A packet comes to the detector as NAT made it, but for its interface. -/
theorem forward_packet (pl : Plane) (now : Nat) (p : Packet) :
    ∃ egress, (pl.forward now p).1 = { (pl.nat.apply now p).1 with egress } := by
  unfold forward
  split
  · obtain ⟨egress, hegress⟩ := pl.route_packet p
    obtain ⟨egress', hegress'⟩ := (pl.route p).2.translate_packet now (pl.route p).1 true
    exact ⟨egress', hegress'.trans (by rw [route_nat, hegress, apply_withEgress])⟩
  · exact pl.translate_packet now p false

theorem sentry_filter (pl : Plane) (p : Packet) : (pl.filter p).2.sentry = pl.sentry := by
  have hcounter : ∀ verdict, verdictCounter verdict ≠ .idsAlerts := by
    intro verdict
    cases verdict <;> decide
  exact sentry_count { pl with firewall := _ } (hcounter _)

theorem sentry_inspect (pl : Plane) (now : Nat) (p : Packet) :
    (pl.inspect now p).2.sentry =
      ⟨(pl.ids.detect now p).2, pl.nat,
        if (pl.ids.detect now p).1.alert.isSome then pl.sentry.alerted + 1 else pl.sentry.alerted⟩ := by
  unfold inspect
  dsimp only
  split <;> rfl

theorem sentry_enqueue (pl : Plane) (p : Packet) : (pl.enqueue p).2.sentry = pl.sentry := by
  unfold enqueue
  dsimp only
  split <;> split <;> rfl

/-! ## The whole way -/

/-- The router when a packet comes to the detector. -/
def judged (pl : Plane) (now : Nat) (p : Packet) : Plane :=
  ((pl.forward now p).2.filter (pl.forward now p).1).2

theorem sentry_judged (pl : Plane) (now : Nat) (p : Packet) :
    (pl.judged now p).sentry = { pl.sentry with nat := (pl.nat.apply now p).2 } := by
  rw [judged, sentry_filter, sentry_forward]

/-- The interface of a packet is nothing to the detector. -/
theorem detect_judged (pl : Plane) (now : Nat) (p : Packet) :
    (pl.judged now p).ids.detect now (pl.forward now p).1 = pl.ids.detect now (pl.nat.apply now p).1 := by
  obtain ⟨egress, hegress⟩ := pl.forward_packet now p
  have hids : (pl.judged now p).ids = pl.ids := congrArg Sentry.ids (pl.sentry_judged now p)
  rw [hegress, hids]
  rfl

/-- Whatever becomes of a packet, it was inspected, and nothing after that concerns the sentry. -/
theorem process_inspected (pl : Plane) (now : Nat) (p : Packet) :
    (pl.process now p).detection = ((pl.judged now p).inspect now (pl.forward now p).1).1 ∧
      (pl.process now p).plane.sentry = ((pl.judged now p).inspect now (pl.forward now p).1).2.sentry := by
  unfold process
  dsimp only
  split
  · exact ⟨rfl, rfl⟩
  · split
    · exact ⟨rfl, sentry_count _ (by decide)⟩
    · split <;> exact ⟨rfl, sentry_enqueue _ _⟩

theorem detection_process (pl : Plane) (now : Nat) (p : Packet) :
    (pl.process now p).detection = pl.sentry.detection now p := by
  rw [(pl.process_inspected now p).1]
  exact congrArg Prod.fst (pl.detect_judged now p)

theorem sentry_process (pl : Plane) (now : Nat) (p : Packet) :
    (pl.process now p).plane.sentry = pl.sentry.after now p := by
  have hnat : (pl.judged now p).nat = (pl.nat.apply now p).2 := congrArg Sentry.nat (pl.sentry_judged now p)
  have halerted : (pl.judged now p).sentry.alerted = pl.sentry.alerted := by rw [sentry_judged]
  rw [(pl.process_inspected now p).2, sentry_inspect, detect_judged, hnat, halerted]
  rfl

theorem send_idsAlerts (m : Metrics) (sends : Nat → Frame → Bool) (number : Nat) (packets : List Packet) :
    (send m sends number packets).2.totals.idsAlerts = m.totals.idsAlerts := by
  induction packets generalizing m number with
  | nil => rfl
  | cons p rest ih =>
    rw [send]
    split <;> exact ih _ _

theorem sentry_egressOnce (pl : Plane) (now batch : Nat) (sends : Nat → Frame → Bool) :
    (pl.egressOnce now batch sends).plane.sentry = pl.sentry := by
  have halerted := send_idsAlerts pl.metrics sends 0 (pl.qos.dequeueBatch now batch).1
  simp [sentry, egressOnce, halerted]

end Plane

/-! ## Events -/

namespace PlaneState

open Plane

variable {s t : PlaneState} {e : PlaneEvent}

/-- What is said of the packet of an event, if it has one. -/
def detection? (s : PlaneState) : PlaneEvent → Option Detection
  | .process p => some (s.plane.process s.now p).detection
  | _ => none

/-- What is said of the packets of events, in order. -/
def detections (s : PlaneState) : List PlaneEvent → List Detection
  | [] => []
  | e :: rest => (s.detection? e).toList ++ (s.step e).detections rest

/-- An event counts an alert for the packet that it raised one on. -/
theorem idsAlerts_step (s : PlaneState) (e : PlaneEvent) :
    (s.step e).plane.metrics.totals.idsAlerts =
      s.plane.metrics.totals.idsAlerts + UInt64.ofNat ((s.detection? e).toList.countP (·.alert.isSome)) := by
  cases e with
  | process p =>
    have hafter : (s.step (.process p)).plane.metrics.totals.idsAlerts = (s.plane.sentry.after s.now p).alerted :=
      congrArg Sentry.alerted (s.plane.sentry_process s.now p)
    have hbefore : s.plane.sentry.alerted = s.plane.metrics.totals.idsAlerts := rfl
    rw [hafter, detection?, detection_process, Sentry.after]
    cases halert : (s.plane.sentry.detection s.now p).alert with
    | none => simp [halert, hbefore]
    | some alert => simp [halert, hbefore]
  | egress batch sends =>
    have hsame : (s.step (.egress batch sends)).plane.metrics.totals.idsAlerts = s.plane.metrics.totals.idsAlerts :=
      congrArg Sentry.alerted (s.plane.sentry_egressOnce s.now batch sends)
    simp [hsame, detection?]
  | wait duration => simp [step, detection?]

theorem idsAlerts_run (s : PlaneState) (events : List PlaneEvent) :
    (s.run events).plane.metrics.totals.idsAlerts =
      s.plane.metrics.totals.idsAlerts + UInt64.ofNat ((s.detections events).countP (·.alert.isSome)) := by
  induction events generalizing s with
  | nil => exact (UInt64.add_zero _).symm
  | cons e rest ih =>
    have hrest := ih (s.step e)
    rw [idsAlerts_step, UInt64.add_assoc, ← UInt64.ofNat_add] at hrest
    rw [detections, List.countP_append]
    exact hrest

/-- Two routers at the same time, with the same detector and the same flows. -/
structure SameSentry (s t : PlaneState) : Prop where
  now : s.now = t.now
  ids : s.plane.ids = t.plane.ids
  nat : s.plane.nat = t.plane.nat

theorem SameSentry.detection?_eq (h : SameSentry s t) (e : PlaneEvent) : s.detection? e = t.detection? e := by
  cases e with
  | process p =>
    have hsentry : s.plane.sentry.detection s.now p = t.plane.sentry.detection t.now p := by
      simp only [Sentry.detection, sentry, h.now, h.ids, h.nat]
    rw [detection?, detection?, detection_process, detection_process, hsentry]
  | egress _ _ | wait _ => rfl

theorem SameSentry.step (h : SameSentry s t) (e : PlaneEvent) : SameSentry (s.step e) (t.step e) := by
  cases e with
  | process p =>
    have hs := s.plane.sentry_process s.now p
    have ht := t.plane.sentry_process t.now p
    refine ⟨h.now, (congrArg Sentry.ids hs).trans (.trans ?_ (congrArg Sentry.ids ht).symm),
      (congrArg Sentry.nat hs).trans (.trans ?_ (congrArg Sentry.nat ht).symm)⟩
    · simp only [Sentry.after, sentry, h.now, h.ids, h.nat]
    · simp only [Sentry.after, sentry, h.now, h.nat]
  | egress batch sends => exact ⟨h.now, h.ids, h.nat⟩
  | wait duration => exact ⟨congrArg (· + duration) h.now, h.ids, h.nat⟩

theorem SameSentry.run (h : SameSentry s t) (events : List PlaneEvent) :
    s.detections events = t.detections events ∧ SameSentry (s.run events) (t.run events) := by
  induction events generalizing s t with
  | nil => exact ⟨rfl, h⟩
  | cons e rest ih =>
    obtain ⟨hdetections, hrest⟩ := ih (h.step e)
    rw [detections, detections, h.detection?_eq e, hdetections]
    exact ⟨rfl, hrest⟩

/-- Routers with the same detector and the same flows say the same of the same packets, come to the same detector with
the same alerts, and count as many more, whatever their filters, routes, addresses, queues and counters are. -/
theorem detections_eq {a b : Plane} (hids : a.ids = b.ids) (hnat : a.nat = b.nat) (now : Nat)
    (events : List PlaneEvent) :
    detections ⟨a, now⟩ events = detections ⟨b, now⟩ events ∧
      (run ⟨a, now⟩ events).plane.ids = (run ⟨b, now⟩ events).plane.ids ∧
      (run ⟨a, now⟩ events).plane.metrics.totals.idsAlerts - a.metrics.totals.idsAlerts =
        (run ⟨b, now⟩ events).plane.metrics.totals.idsAlerts - b.metrics.totals.idsAlerts := by
  obtain ⟨hdetections, hsame⟩ := SameSentry.run (s := ⟨a, now⟩) (t := ⟨b, now⟩) ⟨rfl, hids, hnat⟩ events
  refine ⟨hdetections, hsame.ids, ?_⟩
  rw [idsAlerts_run, idsAlerts_run, hdetections, UInt64.add_comm a.metrics.totals.idsAlerts,
    UInt64.add_comm b.metrics.totals.idsAlerts, UInt64.add_sub_cancel, UInt64.add_sub_cancel]

/-! ## A scan of filtered ports -/

open DetectorState (strict knock)

/-- A router that refuses everything, and hands what comes for `203.0.113.10` to `192.168.1.20`. -/
def shut : Plane :=
  { Plane.new strict 0 with
    nat := NatTable.empty.add
      ⟨.destination, none, some (.host (.v4 0xCB00710A)), none, none, .v4 0xC0A80114, none⟩ }

/-- The same detector and flows in a router that knows a route, lets through what is for its own address, has room for
one packet, and counted alerts before. -/
def ajar : Plane :=
  { shut with
    routing := .ofList [insideRoute]
    firewall := Firewall.empty.setDefault .input .accept
    qos := ⟨[], .new { TrafficClass.default with maxQueue := 1 } 0⟩
    metrics := Metrics.zero.add .idsAlerts 41
    localAddresses := [.v4 0xC0A80114] }

/-- A scanner tries three ports. -/
def probes : List PlaneEvent :=
  [.process (knock 22), .wait 5, .process (knock 23), .egress 1 fun _ _ => true, .process (knock 24)]

/-- One router refuses the first packet and the other sends it, and both raise two alerts on the packets after it. -/
theorem detections_probes :
    shut.ids = ajar.ids ∧ shut.nat = ajar.nat ∧
      (shut.process 0 (knock 22)).disposition = .filtered .drop ∧
      (ajar.process 0 (knock 22)).disposition = .queued "default" ∧
      (detections ⟨ajar, 0⟩ probes).map (fun d => d.alert.isSome) = [false, true, true] ∧
      (run ⟨ajar, 0⟩ probes).plane.ids.alerts.length = 2 ∧
      (run ⟨ajar, 0⟩ probes).plane.metrics.totals.idsAlerts - ajar.metrics.totals.idsAlerts = 2 := by
  obtain ⟨hdetections, hids, halerts⟩ := detections_eq (a := shut) (b := ajar) rfl rfl 0 probes
  rw [← hdetections, ← hids, ← halerts]
  exact ⟨rfl, rfl, by decide, by decide, by decide, by decide, by decide⟩

end PlaneState

end Router
