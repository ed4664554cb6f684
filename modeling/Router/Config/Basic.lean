import Router.Logging

/-!
# The configuration file

The configuration as it stands in the file: words and numbers, nothing checked but their shape.
-/

namespace Router

namespace Config

/-! ## Sections -/

/-- Settings of the loops and the addresses of the router itself. -/
structure PlaneSection where
  localAddresses : List String
  egressBatch : Option UInt64
  egressIdleMs : Option UInt64
  flowTimeoutSecs : Option UInt64
  maintenanceIntervalSecs : Option UInt64
  deriving DecidableEq, Repr

/-- A route. -/
structure RouteEntry where
  destination : String
  gateway : Option String
  interface : String
  metric : Option UInt32
  deriving DecidableEq, Repr

/-- A filter rule. -/
structure FilterEntry where
  chain : String
  action : String
  protocol : Option String
  source : Option String
  destination : Option String
  sourcePort : Option String
  destinationPort : Option String
  inInterface : Option String
  outInterface : Option String
  deriving DecidableEq, Repr

/-- The defaults of the filter, by chain in ascending order of the words, and its rules. -/
structure FilterSection where
  defaults : List (String × String)
  rules : List FilterEntry
  deriving DecidableEq, Repr

/-- A NAT rule. -/
structure NatEntry where
  kind : String
  source : Option String
  destination : Option String
  sourcePort : Option String
  destinationPort : Option String
  toAddress : String
  toPort : Option UInt16
  deriving DecidableEq, Repr

/-- A traffic class. -/
structure ClassEntry where
  name : String
  protocol : Option String
  sourcePort : Option String
  destinationPort : Option String
  rateKbps : Option UInt64
  priority : Option Int32
  maxQueue : Option UInt64
  dropPolicy : Option String
  deriving DecidableEq, Repr

/-- A signature. -/
structure SignatureEntry where
  name : String
  protocol : Option String
  source : Option String
  destination : Option String
  sourcePort : Option String
  destinationPort : Option String
  payloadContains : Option String
  action : Option String
  deriving DecidableEq, Repr

/-- Thresholds of the detector, where given, and its signatures. -/
structure DetectorSection where
  windowSecs : Option UInt64
  rateThreshold : Option UInt64
  portScanThreshold : Option UInt64
  sweepThreshold : Option UInt64
  behaviour : Option String
  maxAlerts : Option UInt64
  rules : List SignatureEntry
  deriving DecidableEq, Repr

end Config

open Config in
/-- The configuration of a router. -/
structure Config where
  logging : LogConfig
  plane : PlaneSection
  routes : List RouteEntry
  firewall : FilterSection
  nat : List NatEntry
  qos : List ClassEntry
  ids : DetectorSection
  deriving DecidableEq, Repr

namespace Config

/-! ## Defaults -/

/-- The settings of the loops where none were given. -/
def PlaneSection.default : PlaneSection :=
  ⟨[], none, none, none, none⟩

/-- The detector section where none was given. -/
def DetectorSection.default : DetectorSection :=
  ⟨none, none, none, none, none, none, []⟩

/-- The most packets taken out at once. -/
def PlaneSection.batchInForce (s : PlaneSection) : UInt64 :=
  s.egressBatch.getD 32

/-- The milliseconds to wait when no packet may leave. -/
def PlaneSection.idleMsInForce (s : PlaneSection) : UInt64 :=
  s.egressIdleMs.getD 10

/-- The seconds after which a flow without packets is forgotten. -/
def PlaneSection.flowTimeoutInForce (s : PlaneSection) : UInt64 :=
  s.flowTimeoutSecs.getD 300

/-- The seconds between two rounds of upkeep. -/
def PlaneSection.maintenanceIntervalInForce (s : PlaneSection) : UInt64 :=
  s.maintenanceIntervalSecs.getD 30

end Config

end Router
