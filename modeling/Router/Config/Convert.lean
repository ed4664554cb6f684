import Router.Config.Basic
import Router.Detection
import Router.Firewall
import Router.Nat
import Router.Routing
import Router.Shaping.ClassQueue
import Router.Text.Blank

/-!
# From configuration entries to rules

Each entry of the file becomes a rule, or it is refused for the first field that cannot be read. Blanks around
addresses, networks and keywords do not count, nor does the case of keywords.
-/

namespace Router

open Router.Text

/-- Why an entry cannot become a rule. -/
inductive EntryFault
  /-- The text is no address. -/
  | address (text : String)
  /-- The text is no network. -/
  | network (text : String)
  /-- The text is no port range. -/
  | portRange (text : String)
  /-- The text is no keyword of its kind. -/
  | keyword (word : UnknownWord)
  /-- A next hop of another family than the network that it leads to. -/
  | family (gateway : Address) (destination : Network)
  deriving DecidableEq, Repr

/-- The wording of a fault. -/
def EntryFault.message : EntryFault → String
  | .address text => s!"invalid IP address '{text}'"
  | .network text => s!"invalid CIDR '{text}'"
  | .portRange text => s!"invalid port range '{text}'"
  | .keyword word => word.message
  | .family gateway destination => s!"gateway {gateway} and destination {destination} are different address families"

namespace Config

/-! ## Fields -/

/-- The address of a field. -/
def address (s : String) : Except EntryFault Address :=
  match Address.ofString? (trimmed s) with
  | some a => .ok a
  | none => .error (.address s)

/-- The network of a field. -/
def network (s : String) : Except EntryFault Network :=
  match Network.ofString? (trimmed s) with
  | some n => .ok n
  | none => .error (.network (trimmed s))

/-- The port range of a field. -/
def portRange (s : String) : Except EntryFault PortRange :=
  match PortRange.ofString? s with
  | some r => .ok r
  | none => .error (.portRange s)

/-- The keyword of a field. -/
def keyword {α : Type} [Keyword α] (s : String) : Except EntryFault α :=
  (Keyword.read (trimmed s)).mapError .keyword

/-- What a field stands for, if it is there. -/
def optional {α : Type} (read : String → Except EntryFault α) : Option String → Except EntryFault (Option α)
  | none => .ok none
  | some s => (read s).map some

/-! ## Entries -/

/-- The addresses of the router itself. -/
def PlaneSection.toAddresses (s : PlaneSection) : Except EntryFault (List Address) :=
  s.localAddresses.mapM address

/-- The route of an entry. -/
def RouteEntry.toRoute (e : RouteEntry) : Except EntryFault Route := do
  let destination ← network e.destination
  let gateway ← optional address e.gateway
  match gateway with
  | some a => if a.isV4 ≠ destination.base.isV4 then throw (.family a destination)
  | none => pure ()
  return { destination, gateway, interface := e.interface, metric := e.metric.getD 0 }

/-- The defaults of the chains; of several words for one chain, the last counts. -/
def FilterSection.toDefaults (s : FilterSection) : Except EntryFault (PerChain (Option Verdict)) := do
  let entries ← s.defaults.mapM fun (chain, verdict) => do
    let chain ← keyword chain
    let verdict ← keyword verdict
    return (chain, verdict)
  return PerChain.ofList entries

/-- The rule of an entry. -/
def FilterEntry.toRule (e : FilterEntry) : Except EntryFault FilterRule := do
  let protocol ← optional keyword e.protocol
  let source ← optional network e.source
  let destination ← optional network e.destination
  let sourcePort ← optional portRange e.sourcePort
  let destinationPort ← optional portRange e.destinationPort
  let chain ← keyword e.chain
  let verdict ← keyword e.action
  return {
    chain, verdict, protocol, source, destination, sourcePort, destinationPort,
    inInterface := e.inInterface, outInterface := e.outInterface }

/-- The rule of an entry. -/
def NatEntry.toRule (e : NatEntry) : Except EntryFault NatRule := do
  let kind ← keyword e.kind
  let source ← optional network e.source
  let destination ← optional network e.destination
  let sourcePort ← optional portRange e.sourcePort
  let destinationPort ← optional portRange e.destinationPort
  let toAddress ← address e.toAddress
  return { kind, source, destination, sourcePort, destinationPort, toAddress, toPort := e.toPort }

/-- The class of an entry. -/
def ClassEntry.toClass (e : ClassEntry) : Except EntryFault TrafficClass := do
  let protocol ← optional keyword e.protocol
  let sourcePort ← optional portRange e.sourcePort
  let destinationPort ← optional portRange e.destinationPort
  let dropPolicy ← optional keyword e.dropPolicy
  return {
    name := e.name, protocol, sourcePort, destinationPort, rateKbps := e.rateKbps.getD 0,
    priority := e.priority.getD 0, maxQueue := e.maxQueue.getD 0, dropPolicy := dropPolicy.getD .tail }

/-- The thresholds of the detector. -/
def DetectorSection.toConfig (s : DetectorSection) : Except EntryFault DetectorConfig := do
  let behaviour ← optional keyword s.behaviour
  let d := DetectorConfig.default
  return {
    window := (s.windowSecs.map fun n => n.toNat * Duration.second).getD d.window
    rateThreshold := s.rateThreshold.getD d.rateThreshold
    portScanThreshold := s.portScanThreshold.getD d.portScanThreshold
    sweepThreshold := s.sweepThreshold.getD d.sweepThreshold
    behaviour := behaviour.getD d.behaviour
    maxAlerts := s.maxAlerts.getD d.maxAlerts }

/-- The signature of an entry. -/
def SignatureEntry.toSignature (e : SignatureEntry) : Except EntryFault Signature := do
  let response ← optional keyword e.action
  let protocol ← optional keyword e.protocol
  let source ← optional network e.source
  let destination ← optional network e.destination
  let sourcePort ← optional portRange e.sourcePort
  let destinationPort ← optional portRange e.destinationPort
  return {
    name := e.name, protocol, source, destination, sourcePort, destinationPort,
    payloadContains := e.payloadContains, response := response.getD .alert }

end Config

end Router
