import Router.Detection
import Router.Firewall
import Router.Metrics
import Router.Nat
import Router.Routing
import Router.Shaping

/-!
# The way of a packet through the router

A packet is routed, translated, routed again if its destination was translated, judged by the filter, inspected by the
detector, and queued if both let it pass. Only packets without an interface to leave through are routed. What the
filter refuses is still inspected.
-/

namespace Router

/-- The engines of a router, its own addresses and its counters. -/
structure Plane where
  routing : RoutingTable
  firewall : Firewall
  nat : NatTable
  qos : Scheduler
  ids : Detector
  metrics : Metrics
  /-- The addresses of the router itself. -/
  localAddresses : List Address

/-- What became of a packet. -/
inductive Disposition
  /-- It waits in a class. -/
  | queued (className : String)
  /-- It was let pass, but the queue of its class was full. -/
  | queueFull (className : String)
  /-- The filter refused it. -/
  | filtered (verdict : Verdict)
  /-- The detector stopped it. -/
  | blocked (alert : Option Alert)
  deriving DecidableEq, Repr

/-- The outcome of one packet. -/
structure Processed where
  plane : Plane
  disposition : Disposition
  /-- What the detector said. -/
  detection : Detection
  /-- The packet that was given up: this one, or an older one that made room for it. -/
  discarded : Option Packet

namespace Plane

/-- A router without any rule. -/
def new (config : DetectorConfig) (now : Nat) : Plane where
  routing := .empty
  firewall := .empty
  nat := .empty
  qos := .new now
  ids := .new config
  metrics := .zero
  localAddresses := []

/-- The router with one more of what a counter counts. -/
def count (pl : Plane) (c : Counter) : Plane :=
  { pl with metrics := pl.metrics.inc c }

/-- The chain that judges a packet to a destination. -/
def chainFor (pl : Plane) (destination : Option Address) : Chain :=
  if destination.any fun a => a ∈ pl.localAddresses then .input else .forward

/-- The packet with the interface of the route to its destination. -/
def route (pl : Plane) (p : Packet) : Packet × Plane :=
  match p.metadata.destination with
  | none => (p, pl)
  | some a =>
    match pl.routing.lookup a with
    | some route => ({ p with egress := route.interface }, pl)
    | none => (p, pl.count .noRoute)

/-- The addresses and ports of a packet. -/
def tuple (p : Packet) : Option Address × UInt16 × Option Address × UInt16 :=
  (p.metadata.source, p.metadata.sourcePort, p.metadata.destination, p.metadata.destinationPort)

/-- The packet after NAT. It is routed again if its destination is another and `rerouted` allows it. -/
def translate (pl : Plane) (now : Nat) (p : Packet) (rerouted : Bool) : Packet × Plane :=
  let (q, nat) := pl.nat.apply now p
  let pl := { pl with nat }
  if tuple q = tuple p then (q, pl)
  else
    let pl := pl.count .natTranslated
    if rerouted && q.metadata.destination ≠ p.metadata.destination then pl.route q else (q, pl)

/-- The counter of a verdict. -/
def verdictCounter : Verdict → Counter
  | .accept => .filterAccepted
  | .drop => .filterDropped
  | .reject => .filterRejected

/-- The verdict on a packet, counted. -/
def filter (pl : Plane) (p : Packet) : Verdict × Plane :=
  let (verdict, firewall) := pl.firewall.evaluate (pl.chainFor p.metadata.destination) p
  (verdict, { pl with firewall }.count (verdictCounter verdict))

/-- What the detector says of a packet, counted if it raised an alert. -/
def inspect (pl : Plane) (now : Nat) (p : Packet) : Detection × Plane :=
  let (detection, ids) := pl.ids.detect now p
  let pl := { pl with ids }
  (detection, if detection.alert.isSome then pl.count .idsAlerts else pl)

/-- Offers a packet to its class, counted. -/
def enqueue (pl : Plane) (p : Packet) : Admission × Plane :=
  let (admission, qos) := pl.qos.enqueue p
  let pl := { pl with qos }
  let pl := if admission.dropped then pl.count .qosDropped else pl
  (admission, if admission.accepted then pl.count .qosEnqueued else pl)

/-- The packet with its interface and after NAT, and the router after both. -/
def forward (pl : Plane) (now : Nat) (p : Packet) : Packet × Plane :=
  if p.egress = "" then
    let (p, pl) := pl.route p
    pl.translate now p true
  else pl.translate now p false

/-- The way of one packet through all engines. -/
def process (pl : Plane) (now : Nat) (p : Packet) : Processed :=
  let (p, pl) := pl.forward now p
  let (verdict, pl) := pl.filter p
  let (detection, pl) := pl.inspect now p
  if verdict ≠ .accept then ⟨pl, .filtered verdict, detection, some p⟩
  else if detection.drop then ⟨pl.count .idsBlocked, .blocked detection.alert, detection, some p⟩
  else
    let (admission, pl) := pl.enqueue p
    if admission.accepted then ⟨pl, .queued admission.className, detection, admission.discarded⟩
    else ⟨pl, .queueFull admission.className, detection, admission.discarded⟩

end Plane

end Router
