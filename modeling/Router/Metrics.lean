/-!
# Counters

Counters of the whole router and of each interface, modulo `2 ^ 64`. Each has a name to be exported under; the counters
of an interface are named after it, in the order of interface names.
-/

namespace Router

/-! ## Counters of the router -/

/-- What the router counts. -/
inductive Counter
  /-- Datagrams that could not be read. -/
  | rxErrors
  /-- Look-ups of a destination without a route. -/
  | noRoute
  /-- Packets under another tuple after NAT. -/
  | natTranslated
  | filterAccepted
  | filterDropped
  | filterRejected
  | idsAlerts
  /-- Packets that the filter accepted and the detector stopped. -/
  | idsBlocked
  | qosEnqueued
  /-- Packets given up for a full queue. -/
  | qosDropped
  | packetsTransmitted
  | txErrors
  deriving DecidableEq, Repr

namespace Counter

/-- The counters in the order of export. -/
def all : List Counter := [
  .rxErrors, .noRoute, .natTranslated, .filterAccepted, .filterDropped, .filterRejected, .idsAlerts, .idsBlocked,
  .qosEnqueued, .qosDropped, .packetsTransmitted, .txErrors]

/-- The name of a counter. -/
def name : Counter → String
  | .rxErrors => "rx_errors"
  | .noRoute => "no_route"
  | .natTranslated => "nat_translated"
  | .filterAccepted => "filter_accepted"
  | .filterDropped => "filter_dropped"
  | .filterRejected => "filter_rejected"
  | .idsAlerts => "ids_alerts"
  | .idsBlocked => "ids_blocked"
  | .qosEnqueued => "qos_enqueued"
  | .qosDropped => "qos_dropped"
  | .packetsTransmitted => "packets_transmitted"
  | .txErrors => "tx_errors"

/-- The counter of a name. -/
def ofName? (name : String) : Option Counter :=
  all.find? fun c => c.name = name

end Counter

/-- A value for each counter of the router. -/
structure Totals where
  rxErrors : UInt64
  noRoute : UInt64
  natTranslated : UInt64
  filterAccepted : UInt64
  filterDropped : UInt64
  filterRejected : UInt64
  idsAlerts : UInt64
  idsBlocked : UInt64
  qosEnqueued : UInt64
  qosDropped : UInt64
  packetsTransmitted : UInt64
  txErrors : UInt64
  deriving DecidableEq, Repr

namespace Totals

/-- All counters at zero. -/
def zero : Totals :=
  ⟨0, 0, 0, 0, 0, 0, 0, 0, 0, 0, 0, 0⟩

/-- The value of a counter. -/
def get (t : Totals) : Counter → UInt64
  | .rxErrors => t.rxErrors
  | .noRoute => t.noRoute
  | .natTranslated => t.natTranslated
  | .filterAccepted => t.filterAccepted
  | .filterDropped => t.filterDropped
  | .filterRejected => t.filterRejected
  | .idsAlerts => t.idsAlerts
  | .idsBlocked => t.idsBlocked
  | .qosEnqueued => t.qosEnqueued
  | .qosDropped => t.qosDropped
  | .packetsTransmitted => t.packetsTransmitted
  | .txErrors => t.txErrors

/-- The counters with one of them increased. -/
def add (t : Totals) (c : Counter) (n : UInt64) : Totals :=
  match c with
  | .rxErrors => { t with rxErrors := t.rxErrors + n }
  | .noRoute => { t with noRoute := t.noRoute + n }
  | .natTranslated => { t with natTranslated := t.natTranslated + n }
  | .filterAccepted => { t with filterAccepted := t.filterAccepted + n }
  | .filterDropped => { t with filterDropped := t.filterDropped + n }
  | .filterRejected => { t with filterRejected := t.filterRejected + n }
  | .idsAlerts => { t with idsAlerts := t.idsAlerts + n }
  | .idsBlocked => { t with idsBlocked := t.idsBlocked + n }
  | .qosEnqueued => { t with qosEnqueued := t.qosEnqueued + n }
  | .qosDropped => { t with qosDropped := t.qosDropped + n }
  | .packetsTransmitted => { t with packetsTransmitted := t.packetsTransmitted + n }
  | .txErrors => { t with txErrors := t.txErrors + n }

theorem get_add (t : Totals) (c d : Counter) (n : UInt64) :
    (t.add c n).get d = if d = c then t.get d + n else t.get d := by
  cases c <;> cases d <;> rfl

end Totals

/-! ## Counters of an interface -/

/-- What went through an interface. -/
structure InterfaceTally where
  rxPackets : UInt64
  rxBytes : UInt64
  txPackets : UInt64
  txBytes : UInt64
  txErrors : UInt64
  deriving DecidableEq, Repr

namespace InterfaceTally

/-- Nothing went through. -/
def zero : InterfaceTally :=
  ⟨0, 0, 0, 0, 0⟩

/-- One more packet came in. -/
def received (t : InterfaceTally) (bytes : Nat) : InterfaceTally :=
  { t with rxPackets := t.rxPackets + 1, rxBytes := t.rxBytes + UInt64.ofNat bytes }

/-- One more packet went out. -/
def sent (t : InterfaceTally) (bytes : Nat) : InterfaceTally :=
  { t with txPackets := t.txPackets + 1, txBytes := t.txBytes + UInt64.ofNat bytes }

/-- One more packet failed to go out. -/
def failed (t : InterfaceTally) : InterfaceTally :=
  { t with txErrors := t.txErrors + 1 }

/-- The counters under the ends of their names. -/
def entries (t : InterfaceTally) : List (String × UInt64) := [
  ("_rx_packets", t.rxPackets),
  ("_rx_bytes", t.rxBytes),
  ("_tx_packets", t.txPackets),
  ("_tx_bytes", t.txBytes),
  ("_tx_errors", t.txErrors)]

end InterfaceTally

/-! ## All counters -/

/-- The counters of the router and, by ascending name, of its interfaces. -/
structure Metrics where
  totals : Totals
  interfaces : List (String × InterfaceTally)
  deriving DecidableEq, Repr

namespace Metrics

/-- Nothing was counted. -/
def zero : Metrics :=
  ⟨.zero, []⟩

/-- The metrics with a counter increased. -/
def add (m : Metrics) (c : Counter) (n : UInt64) : Metrics :=
  { m with totals := m.totals.add c n }

/-- The metrics with one more of what a counter counts. -/
def inc (m : Metrics) (c : Counter) : Metrics :=
  m.add c 1

/-- Changes the tally of an interface, a new one if it is not known yet. -/
def updateInterface (name : String) (f : InterfaceTally → InterfaceTally) :
    List (String × InterfaceTally) → List (String × InterfaceTally)
  | [] => [(name, f .zero)]
  | entry :: rest =>
    if name = entry.1 then (name, f entry.2) :: rest
    else if name < entry.1 then (name, f .zero) :: entry :: rest
    else entry :: updateInterface name f rest

/-- The metrics with the tally of an interface changed. -/
def onInterface (m : Metrics) (name : String) (f : InterfaceTally → InterfaceTally) : Metrics :=
  { m with interfaces := updateInterface name f m.interfaces }

/-- A packet came in through an interface. -/
def received (m : Metrics) (name : String) (bytes : Nat) : Metrics :=
  m.onInterface name fun t => t.received bytes

/-- A packet went out through an interface. -/
def sent (m : Metrics) (name : String) (bytes : Nat) : Metrics :=
  (m.inc .packetsTransmitted).onInterface name fun t => t.sent bytes

/-- A packet failed to go out through an interface. -/
def failed (m : Metrics) (name : String) : Metrics :=
  (m.inc .txErrors).onInterface name InterfaceTally.failed

/-- Every counter by name: those of the router, then those of each interface. -/
def entries (m : Metrics) : List (String × UInt64) :=
  Counter.all.map (fun c => (c.name, m.totals.get c)) ++
    m.interfaces.flatMap fun (name, tally) => tally.entries.map fun (suffix, n) => (name ++ suffix, n)

/-- The counter exported under a name, the first of several. -/
def get? (m : Metrics) (name : String) : Option UInt64 :=
  (m.entries.find? fun e => e.1 = name).map Prod.snd

end Metrics

end Router
