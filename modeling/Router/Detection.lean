import Router.Assoc
import Router.Duration
import Router.Network
import Router.Packet
import Router.PortRange
import Router.Text.Notation

/-!
# Intrusion detection

A packet is first compared with the signatures; the first one that matches decides. Otherwise it counts in the window
of its source: how many packets, how many destination ports and how many destination addresses since the window was
opened. A window that is older than the configured length starts over. The first condition that is over its threshold
decides, and raises one alert per window. Alerts are kept in a ring of limited length.
-/

namespace Router

/-! ## Vocabulary -/

/-- What is done about a packet that was detected. -/
inductive Response
  | alert
  | drop
  deriving DecidableEq, Repr

namespace Response

/-- The name of a response. -/
def name : Response → String
  | .alert => "ALERT"
  | .drop => "DROP"

instance : Text.Keyword Response where
  noun := "IDS action"
  spelling := name
  all := [.alert, .drop]

instance : Text.Keyword.Sound Response where
  mem_all a := by cases a <;> decide
  ne_empty a := by cases a <;> decide
  foldCase_inj {a b} h := by cases a <;> cases b <;> first | rfl | (exact absurd h (by decide))

end Response

/-- A pattern of single packets; a predicate that is absent holds of every packet. -/
structure Signature where
  name : String
  protocol : Option Protocol
  source : Option Network
  destination : Option Network
  sourcePort : Option PortRange
  destinationPort : Option PortRange
  /-- A text whose octets stand in the datagram as a run. -/
  payloadContains : Option String
  response : Response
  deriving DecidableEq, Repr

/-- Whether all predicates of a signature hold of a packet. -/
def Signature.isMatch (s : Signature) (p : Packet) : Bool :=
  s.protocol.all (· = p.metadata.protocol)
    && Network.admits s.source p.metadata.source
    && Network.admits s.destination p.metadata.destination
    && PortRange.admits s.sourcePort p.metadata.sourcePort
    && PortRange.admits s.destinationPort p.metadata.destinationPort
    && s.payloadContains.all fun text => Bytes.contains text.toUTF8.toList p.data

/-- Thresholds of the windows; a threshold of zero is not checked. -/
structure DetectorConfig where
  /-- Length of a window in nanoseconds. -/
  window : Nat
  /-- Packets of a source in a window. -/
  rateThreshold : UInt64
  /-- Destination ports of a source in a window. -/
  portScanThreshold : UInt64
  /-- Destination addresses of a source in a window. -/
  sweepThreshold : UInt64
  /-- What is done about a source over a threshold. -/
  behaviour : Response
  /-- Most alerts kept. -/
  maxAlerts : UInt64
  deriving DecidableEq, Repr

/-- The thresholds where none were given. -/
def DetectorConfig.default : DetectorConfig :=
  ⟨10 * Duration.second, 1000, 50, 0, .alert, 1000⟩

/-! ## Findings and alerts -/

/-- The kinds of findings. -/
inductive FindingKind
  | signature
  | rateSpike
  | portScan
  | sweep
  deriving DecidableEq, Repr

/-- The name of a kind. -/
def FindingKind.name : FindingKind → String
  | .signature => "SIGNATURE"
  | .rateSpike => "RATE_SPIKE"
  | .portScan => "PORT_SCAN"
  | .sweep => "DST_SWEEP"

/-- How bad a finding is. -/
inductive Severity
  | low
  | medium
  | high
  deriving DecidableEq, Repr

/-- The name of a severity. -/
def Severity.name : Severity → String
  | .low => "low"
  | .medium => "medium"
  | .high => "high"

/-- What was found. -/
inductive Finding
  /-- A packet like the signature of that name. -/
  | signature (name : String)
  /-- That many packets in a window of that length. -/
  | rateSpike (packets window : Nat)
  /-- That many destination ports. -/
  | portScan (ports : Nat)
  /-- That many destination addresses. -/
  | sweep (addresses : Nat)
  deriving DecidableEq, Repr

namespace Finding

/-- The kind of a finding. -/
def kind : Finding → FindingKind
  | .signature _ => .signature
  | .rateSpike _ _ => .rateSpike
  | .portScan _ => .portScan
  | .sweep _ => .sweep

/-- How bad a finding is. -/
def severity : Finding → Severity
  | .signature _ | .rateSpike _ _ => .high
  | .portScan _ | .sweep _ => .medium

/-- A finding in words. -/
def reason : Finding → String
  | .signature name => name
  | .rateSpike packets window => s!"{packets} packets within {Duration.describe window}"
  | .portScan ports => s!"{ports} distinct destination ports"
  | .sweep addresses => s!"{addresses} distinct destination addresses"

end Finding

/-- A finding with the packet it was made on. -/
structure Alert where
  finding : Finding
  protocol : Protocol
  source : Option Address
  sourcePort : UInt16
  destination : Option Address
  destinationPort : UInt16
  deriving DecidableEq, Repr

/-- The alert of a finding on a packet. -/
def Alert.on (finding : Finding) (m : Metadata) : Alert :=
  ⟨finding, m.protocol, m.source, m.sourcePort, m.destination, m.destinationPort⟩

/-- What the detector says of a packet. -/
structure Detection where
  drop : Bool
  alert : Option Alert
  deriving DecidableEq, Repr

/-- Nothing was found. -/
def Detection.none : Detection :=
  ⟨false, .none⟩

/-! ## Windows -/

/-- What a source did since its window was opened. -/
structure SourceWindow where
  opened : Nat
  packets : Nat
  /-- The destination ports, each once. -/
  ports : List UInt16
  /-- The destination addresses, each once. -/
  addresses : List Address
  /-- The kinds of findings that raised an alert. -/
  alerted : List FindingKind
  deriving DecidableEq, Repr

namespace SourceWindow

/-- A window opened just now. -/
def openAt (now : Nat) : SourceWindow :=
  ⟨now, 0, [], [], []⟩

/-- Whether a window is older than its length. -/
def isExpired (w : SourceWindow) (now length : Nat) : Bool :=
  length < now - w.opened

/-- The window with one more packet. -/
def count (w : SourceWindow) (m : Metadata) : SourceWindow :=
  { w with
    packets := w.packets + 1
    ports := if m.protocol.hasPorts then w.ports.insert m.destinationPort else w.ports
    addresses := m.destination.elim w.addresses w.addresses.insert }

/-- The first condition that is over its threshold. -/
def finding? (w : SourceWindow) (c : DetectorConfig) : Option Finding :=
  if c.rateThreshold ≠ 0 ∧ c.rateThreshold.toNat ≤ w.packets then some (.rateSpike w.packets c.window)
  else if c.portScanThreshold ≠ 0 ∧ c.portScanThreshold.toNat ≤ w.ports.length then some (.portScan w.ports.length)
  else if c.sweepThreshold ≠ 0 ∧ c.sweepThreshold.toNat ≤ w.addresses.length then some (.sweep w.addresses.length)
  else none

end SourceWindow

/-! ## The detector -/

/-- Signatures, thresholds, the windows of the sources and the alerts kept, the oldest first. -/
structure Detector where
  signatures : List Signature
  config : DetectorConfig
  windows : Assoc Address SourceWindow
  alerts : List Alert
  deriving DecidableEq, Repr

namespace Detector

/-- The detector that has seen nothing. -/
def new (config : DetectorConfig) : Detector :=
  ⟨[], config, [], []⟩

/-- The last `capacity` alerts. -/
def lastAlerts (alerts : List Alert) (capacity : UInt64) : List Alert :=
  alerts.drop (alerts.length - capacity.toNat)

/-- The detector with one more alert; the oldest make room. -/
def record (d : Detector) (alert : Alert) : Detector :=
  { d with alerts := lastAlerts (d.alerts ++ [alert]) d.config.maxAlerts }

/-- The window of a source with this packet counted, a new one if it is unknown or its window is over. -/
def windowFor (d : Detector) (now : Nat) (source : Address) (m : Metadata) : SourceWindow :=
  let current : SourceWindow :=
    match d.windows.get? source with
    | some w => if w.isExpired now d.config.window then .openAt now else w
    | none => .openAt now
  current.count m

/-- What the window of the source says of a packet, and the detector after it. -/
def inspect (d : Detector) (now : Nat) (source : Address) (m : Metadata) : Detection × Detector :=
  let w := d.windowFor now source m
  match w.finding? d.config with
  | none => (.none, { d with windows := d.windows.insert source w })
  | some finding =>
    let drop : Bool := d.config.behaviour = .drop
    if finding.kind ∈ w.alerted then (⟨drop, none⟩, { d with windows := d.windows.insert source w })
    else
      let alert := Alert.on finding m
      let w := { w with alerted := finding.kind :: w.alerted }
      (⟨drop, some alert⟩, { d with windows := d.windows.insert source w }.record alert)

/-- What is found on a packet, and the detector after it. A packet without source is not inspected. -/
def detect (d : Detector) (now : Nat) (p : Packet) : Detection × Detector :=
  match p.metadata.source with
  | none => (.none, d)
  | some source =>
    match d.signatures.find? fun s => s.isMatch p with
    | some s =>
      let alert := Alert.on (.signature s.name) p.metadata
      (⟨s.response = .drop, some alert⟩, d.record alert)
    | none => d.inspect now source p.metadata

/-- The detector with one more signature. -/
def add (d : Detector) (s : Signature) : Detector :=
  { d with signatures := d.signatures ++ [s] }

/-- The detector without the signatures of a name, if there are any. -/
def remove? (d : Detector) (name : String) : Option Detector :=
  if d.signatures.any (·.name = name) then
    some { d with signatures := d.signatures.filter (·.name ≠ name) }
  else none

/-- The detector without windows and alerts. -/
def reset (d : Detector) : Detector :=
  { d with windows := [], alerts := [] }

/-- The detector with other thresholds; a shorter ring gives up the oldest alerts. -/
def setConfig (d : Detector) (config : DetectorConfig) : Detector :=
  { d with config, alerts := lastAlerts d.alerts config.maxAlerts }

/-- The detector without the windows that are over. -/
def prune (d : Detector) (now : Nat) : Detector :=
  { d with windows := d.windows.filter fun e => !e.2.isExpired now d.config.window }

/-- The detector in diagnostics. -/
def describe (d : Detector) : String :=
  Text.describeRecord "IdsEngine" [
    ("rules", toString d.signatures.length),
    ("sources", toString d.windows.length),
    ("alerts", toString d.alerts.length)]

end Detector

end Router
