import Router.Document.Rules
import Router.Plane

/-!
# Snapshots

A snapshot is everything that another router needs to take over forwarding: the defaults and rules of the filter, the
NAT rules, the traffic classes and the routes. Flows, queues and what the detector has seen are not part of it. A
snapshot is taken from a router and installed into one.
-/

namespace Router

/-- The default verdict of a chain. -/
structure DefaultPolicy where
  chain : Chain
  verdict : Verdict
  deriving DecidableEq, Repr

/-- The configuration of a router. -/
structure Snapshot where
  firewallDefaults : List DefaultPolicy
  firewallRules : List FilterRule
  natRules : List NatRule
  qosClasses : List TrafficClass
  routes : List Route
  deriving DecidableEq, Repr

namespace Snapshot

/-- The snapshot without any rule. -/
def empty : Snapshot :=
  ⟨[], [], [], [], []⟩

/-- The configuration of a router. -/
def ofPlane (pl : Plane) : Snapshot where
  firewallDefaults := pl.firewall.defaults.entries.map fun (chain, verdict) => ⟨chain, verdict⟩
  firewallRules := pl.firewall.rules
  natRules := pl.nat.rules
  qosClasses := pl.qos.classes
  routes := pl.routing.routes

/-- The defaults by chain; of several for one chain the last counts. -/
def defaults (s : Snapshot) : PerChain (Option Verdict) :=
  PerChain.ofList (s.firewallDefaults.map fun d => (d.chain, d.verdict))

end Snapshot

/-- The router under the configuration of a snapshot, and the packets given up. Flows, surviving queues and what the
detector has seen stay. -/
def Plane.install (pl : Plane) (now : Nat) (s : Snapshot) : Plane × List Packet :=
  let (qos, discarded) := pl.qos.replace now s.qosClasses
  ({ pl with
    firewall := Firewall.ofRules s.firewallRules s.defaults
    nat := pl.nat.replaceRules s.natRules
    qos
    routing := .ofList s.routes }, discarded)

end Router
