import Router.Config.Convert
import Router.Proofs.Outcome

/-!
# Which field becomes which

What each part of a rule is in its entry in the file: a field read as an address, a network, a range or a keyword, or a
field taken as it is (`RouteEntry.Becomes` and its like). Main statements: an entry converts to a rule exactly if it
becomes that rule, part for part (`RouteEntry.toRoute_eq_ok_iff` and its like), so no part of a rule comes from any
other field and none is left out.
-/

namespace Router

open Config

namespace Config

/-- The parts of a route. Its next hop is of the family of its network. -/
structure RouteEntry.Becomes (e : RouteEntry) (r : Route) : Prop where
  destination : network e.destination = .ok r.destination
  gateway : optional address e.gateway = .ok r.gateway
  family : ∀ a ∈ r.gateway, a.isV4 = r.destination.base.isV4
  interface : e.interface = r.interface
  metric : e.metric.getD 0 = r.metric

/-- The parts of a filter rule. -/
structure FilterEntry.Becomes (e : FilterEntry) (r : FilterRule) : Prop where
  chain : keyword e.chain = .ok r.chain
  verdict : keyword e.action = .ok r.verdict
  protocol : optional keyword e.protocol = .ok r.protocol
  source : optional network e.source = .ok r.source
  destination : optional network e.destination = .ok r.destination
  sourcePort : optional portRange e.sourcePort = .ok r.sourcePort
  destinationPort : optional portRange e.destinationPort = .ok r.destinationPort
  inInterface : e.inInterface = r.inInterface
  outInterface : e.outInterface = r.outInterface

/-- The parts of a NAT rule. -/
structure NatEntry.Becomes (e : NatEntry) (r : NatRule) : Prop where
  kind : keyword e.kind = .ok r.kind
  source : optional network e.source = .ok r.source
  destination : optional network e.destination = .ok r.destination
  sourcePort : optional portRange e.sourcePort = .ok r.sourcePort
  destinationPort : optional portRange e.destinationPort = .ok r.destinationPort
  toAddress : address e.toAddress = .ok r.toAddress
  toPort : e.toPort = r.toPort

/-- The parts of a class. A rate or length that is not given is no limit, and packets are dropped at the tail. -/
structure ClassEntry.Becomes (e : ClassEntry) (k : TrafficClass) : Prop where
  name : e.name = k.name
  protocol : optional keyword e.protocol = .ok k.protocol
  sourcePort : optional portRange e.sourcePort = .ok k.sourcePort
  destinationPort : optional portRange e.destinationPort = .ok k.destinationPort
  rateKbps : e.rateKbps.getD 0 = k.rateKbps
  priority : e.priority.getD 0 = k.priority
  maxQueue : e.maxQueue.getD 0 = k.maxQueue
  dropPolicy : (optional keyword e.dropPolicy).map (fun policy => policy.getD .tail) = .ok k.dropPolicy

/-- The parts of the thresholds. Those that are not given are the usual ones. -/
structure DetectorSection.Becomes (s : DetectorSection) (d : DetectorConfig) : Prop where
  window : (s.windowSecs.map fun n => n.toNat * Duration.second).getD DetectorConfig.default.window = d.window
  rateThreshold : s.rateThreshold.getD DetectorConfig.default.rateThreshold = d.rateThreshold
  portScanThreshold : s.portScanThreshold.getD DetectorConfig.default.portScanThreshold = d.portScanThreshold
  sweepThreshold : s.sweepThreshold.getD DetectorConfig.default.sweepThreshold = d.sweepThreshold
  behaviour :
    (optional keyword s.behaviour).map (fun response => response.getD DetectorConfig.default.behaviour) =
      .ok d.behaviour
  maxAlerts : s.maxAlerts.getD DetectorConfig.default.maxAlerts = d.maxAlerts

/-- The parts of a signature, which alerts if nothing else is given. -/
structure SignatureEntry.Becomes (e : SignatureEntry) (g : Signature) : Prop where
  name : e.name = g.name
  protocol : optional keyword e.protocol = .ok g.protocol
  source : optional network e.source = .ok g.source
  destination : optional network e.destination = .ok g.destination
  sourcePort : optional portRange e.sourcePort = .ok g.sourcePort
  destinationPort : optional portRange e.destinationPort = .ok g.destinationPort
  payloadContains : e.payloadContains = g.payloadContains
  response : (optional keyword e.action).map (fun response => response.getD .alert) = .ok g.response

/-! ## Conversions -/

theorem RouteEntry.toRoute_eq_ok_iff {e : RouteEntry} {r : Route} : e.toRoute = .ok r ↔ e.Becomes r := by
  simp only [toRoute, bind_eq_ok_iff]
  constructor
  · rintro ⟨destination, hdestination, gateway, hgateway, h⟩
    cases gateway with
    | none =>
      cases h
      exact ⟨hdestination, hgateway, nofun, rfl, rfl⟩
    | some a =>
      dsimp only at h
      by_cases hfamily : a.isV4 = destination.base.isV4
      · rw [if_neg (not_not.2 hfamily)] at h
        cases h
        exact ⟨hdestination, hgateway, fun _ ha => Option.some.inj ha ▸ hfamily, rfl, rfl⟩
      · rw [if_pos hfamily] at h
        cases h
  · intro h
    refine ⟨_, h.destination, _, h.gateway, ?_⟩
    rw [h.interface, h.metric]
    obtain ⟨destination, gateway, interface, metric⟩ := r
    cases gateway with
    | none => rfl
    | some a => exact if_neg (not_not.2 (h.family a rfl))

theorem FilterEntry.toRule_eq_ok_iff {e : FilterEntry} {r : FilterRule} : e.toRule = .ok r ↔ e.Becomes r := by
  simp only [toRule, bind_eq_ok_iff]
  constructor
  · rintro ⟨protocol, hprotocol, source, hsource, destination, hdestination, sourcePort, hsourcePort,
      destinationPort, hdestinationPort, chain, hchain, verdict, hverdict, h⟩
    cases h
    exact ⟨hchain, hverdict, hprotocol, hsource, hdestination, hsourcePort, hdestinationPort, rfl, rfl⟩
  · intro h
    refine ⟨_, h.protocol, _, h.source, _, h.destination, _, h.sourcePort, _, h.destinationPort, _, h.chain, _,
      h.verdict, ?_⟩
    rw [h.inInterface, h.outInterface]
    rfl

theorem NatEntry.toRule_eq_ok_iff {e : NatEntry} {r : NatRule} : e.toRule = .ok r ↔ e.Becomes r := by
  simp only [toRule, bind_eq_ok_iff]
  constructor
  · rintro ⟨kind, hkind, source, hsource, destination, hdestination, sourcePort, hsourcePort, destinationPort,
      hdestinationPort, toAddress, htoAddress, h⟩
    cases h
    exact ⟨hkind, hsource, hdestination, hsourcePort, hdestinationPort, htoAddress, rfl⟩
  · intro h
    refine ⟨_, h.kind, _, h.source, _, h.destination, _, h.sourcePort, _, h.destinationPort, _, h.toAddress, ?_⟩
    rw [h.toPort]
    rfl

theorem ClassEntry.toClass_eq_ok_iff {e : ClassEntry} {k : TrafficClass} : e.toClass = .ok k ↔ e.Becomes k := by
  simp only [toClass, bind_eq_ok_iff]
  constructor
  · rintro ⟨protocol, hprotocol, sourcePort, hsourcePort, destinationPort, hdestinationPort, policy, hpolicy, h⟩
    cases h
    exact ⟨rfl, hprotocol, hsourcePort, hdestinationPort, rfl, rfl, rfl, map_eq_ok_iff.2 ⟨policy, hpolicy, rfl⟩⟩
  · intro h
    obtain ⟨policy, hpolicy, hdropPolicy⟩ := map_eq_ok_iff.1 h.dropPolicy
    refine ⟨_, h.protocol, _, h.sourcePort, _, h.destinationPort, policy, hpolicy, ?_⟩
    rw [h.name, h.rateKbps, h.priority, h.maxQueue, hdropPolicy]
    rfl

theorem DetectorSection.toConfig_eq_ok_iff {s : DetectorSection} {d : DetectorConfig} :
    s.toConfig = .ok d ↔ s.Becomes d := by
  simp only [toConfig, bind_eq_ok_iff]
  constructor
  · rintro ⟨behaviour, hbehaviour, h⟩
    cases h
    exact ⟨rfl, rfl, rfl, rfl, map_eq_ok_iff.2 ⟨behaviour, hbehaviour, rfl⟩, rfl⟩
  · intro h
    obtain ⟨behaviour, hbehaviour, hresponse⟩ := map_eq_ok_iff.1 h.behaviour
    refine ⟨behaviour, hbehaviour, ?_⟩
    rw [h.window, h.rateThreshold, h.portScanThreshold, h.sweepThreshold, hresponse, h.maxAlerts]
    rfl

theorem SignatureEntry.toSignature_eq_ok_iff {e : SignatureEntry} {g : Signature} :
    e.toSignature = .ok g ↔ e.Becomes g := by
  simp only [toSignature, bind_eq_ok_iff]
  constructor
  · rintro ⟨response, hresponse, protocol, hprotocol, source, hsource, destination, hdestination, sourcePort,
      hsourcePort, destinationPort, hdestinationPort, h⟩
    cases h
    exact ⟨rfl, hprotocol, hsource, hdestination, hsourcePort, hdestinationPort, rfl,
      map_eq_ok_iff.2 ⟨response, hresponse, rfl⟩⟩
  · intro h
    obtain ⟨response, hresponse, hgiven⟩ := map_eq_ok_iff.1 h.response
    refine ⟨response, hresponse, _, h.protocol, _, h.source, _, h.destination, _, h.sourcePort, _, h.destinationPort,
      ?_⟩
    rw [h.name, h.payloadContains, hgiven]
    rfl

end Config

end Router
