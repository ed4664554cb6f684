import Router.Config.Convert

/-!
# What is wrong with a configuration

`Config.defects` lists what makes a configuration useless, `Config.remarks` what is probably not meant; both name the
place in the file, in the order of the file's sections.
-/

namespace Router

open Router.Text

namespace Config

/-! ## Defects -/

/-- A reason to refuse a configuration. -/
inductive Defect
  /-- An entry that cannot become a rule. -/
  | entry (path : String) (fault : EntryFault)
  /-- A number that must not be zero. -/
  | zero (path : String)
  /-- A route without an interface. -/
  | noInterface (path : String)
  /-- A traffic class without a name. -/
  | noName (path : String)
  /-- A traffic class with the name of an earlier one. -/
  | duplicateName (path name : String)
  deriving DecidableEq, Repr

/-- The wording of a defect. -/
def Defect.message : Defect → String
  | .entry path fault => s!"{path}: {fault.message}"
  | .zero path => s!"{path}: must be at least 1"
  | .noInterface path => s!"{path}: interface is empty"
  | .noName path => s!"{path}: name is empty"
  | .duplicateName path name => s!"{path}: duplicate class name '{name}'"

/-- The defect of a conversion that failed. -/
def entryDefects {α : Type} (path : String) : Except EntryFault α → List Defect
  | .ok _ => []
  | .error fault => [.entry path fault]

/-- The place of an element of a list. -/
def place (list : String) (i : Nat) : String :=
  s!"{list}[{i}]"

/-- What is found on each element of a list, given its place. -/
def eachPlace {α β : Type} (list : String) (items : List α) (check : String → α → List β) : List β :=
  (items.zipIdx.map fun (a, i) => check (place list i) a).flatten

/-- Whether a text is empty but for blanks. -/
def isBlankText (s : String) : Bool :=
  trim s.toList = []

/-- The defects of the loops. -/
def PlaneSection.defects (s : PlaneSection) : List Defect :=
  entryDefects "dataplane.local_addresses" s.toAddresses ++
    (if s.egressBatch = some 0 then [.zero "dataplane.egress_batch"] else []) ++
    if s.maintenanceIntervalSecs = some 0 then [.zero "dataplane.maintenance_interval_secs"] else []

/-- The defects of a route. -/
def RouteEntry.defects (path : String) (e : RouteEntry) : List Defect :=
  entryDefects path e.toRoute ++ if isBlankText e.interface then [.noInterface path] else []

/-- The defects of the filter. -/
def FilterSection.defects (s : FilterSection) : List Defect :=
  entryDefects "firewall.defaults" s.toDefaults ++
    eachPlace "firewall.rules" s.rules fun path e => entryDefects path e.toRule

/-- The defects of a traffic class, given the names of those before it. -/
def ClassEntry.defects (earlier : List String) (path : String) (e : ClassEntry) : List Defect :=
  (if isBlankText e.name then [.noName path]
    else if e.name ∈ earlier then [.duplicateName path e.name]
    else []) ++ entryDefects path e.toClass

/-- The defects of the traffic classes. -/
def classDefects (classes : List ClassEntry) : List Defect :=
  (classes.zipIdx.map fun (e, i) =>
    e.defects ((classes.take i).map ClassEntry.name) (place "qos.classes" i)).flatten

/-- The defects of the detector. -/
def DetectorSection.defects (s : DetectorSection) : List Defect :=
  (if s.windowSecs = some 0 then [.zero "ids.window_secs"] else []) ++ entryDefects "ids" s.toConfig ++
    eachPlace "ids.rules" s.rules fun path e => entryDefects path e.toSignature

end Config

open Config

/-- Everything that makes a configuration useless. -/
def Config.defects (c : Config) : List Defect :=
  c.plane.defects ++ eachPlace "routes" c.routes RouteEntry.defects ++ c.firewall.defects ++
    eachPlace "nat.rules" c.nat (fun path e => entryDefects path e.toRule) ++ classDefects c.qos ++ c.ids.defects

namespace Config

/-! ## Remarks -/

/-- Something in a configuration that is probably not meant. -/
inductive Remark
  /-- A logging word that is not known. -/
  | unknownLogging (word : UnknownWord)
  /-- No address of the router itself. -/
  | noLocalAddresses
  /-- A chain without a default. -/
  | noDefault (chain : Chain)
  /-- A NAT rule that matches every flow. -/
  | unscoped (path : String) (kind : NatKind)
  /-- Predicates on the default class. -/
  | ignoredMatch (path : String)
  /-- A priority on the default class. -/
  | ignoredPriority (path : String)
  /-- All thresholds of the detector are zero. -/
  | noThresholds
  /-- Alerts are not kept. -/
  | noAlertsKept
  /-- A signature with an empty text. -/
  | emptyPayload (path : String)
  deriving DecidableEq, Repr

/-- The wording of a remark. -/
def Remark.message : Remark → String
  | .unknownLogging word => s!"logging: {word.message}, using default"
  | .noLocalAddresses => "dataplane.local_addresses: none set, all traffic uses the FORWARD chain"
  | .noDefault chain => s!"firewall.defaults: no policy for {chain.name}, using DROP"
  | .unscoped path kind => s!"{path}: {kind.name} rule matches every flow"
  | .ignoredMatch path => s!"{path}: match fields on 'default' are ignored, it catches all unmatched traffic"
  | .ignoredPriority path => s!"{path}: priority on 'default' is ignored, it is always dequeued last"
  | .noThresholds => "ids: all behavioural thresholds are 0, only signatures are checked"
  | .noAlertsKept => "ids.max_alerts: 0, alerts will not be kept"
  | .emptyPayload path => s!"{path}: empty payload_contains matches every packet"

/-- What a conversion that succeeded has to be remarked on. -/
def onSuccess {ε α β : Type} (r : Except ε α) (check : α → List β) : List β :=
  match r with
  | .ok a => check a
  | .error _ => []

/-- The remarks on the filter. -/
def FilterSection.remarks (s : FilterSection) : List Remark :=
  onSuccess s.toDefaults fun defaults =>
    (Chain.all.filter fun c => (defaults.get c).isNone).map .noDefault

/-- Whether a NAT rule matches every flow in the direction it is for. -/
def isUnscoped (rule : NatRule) : Bool :=
  match rule.kind with
  | .source => rule.source.isNone
  | .destination => rule.destination.isNone && rule.destinationPort.isNone

/-- The remarks on a NAT rule. -/
def NatEntry.remarks (path : String) (e : NatEntry) : List Remark :=
  onSuccess e.toRule fun rule => if isUnscoped rule then [.unscoped path rule.kind] else []

/-- The remarks on a traffic class. -/
def ClassEntry.remarks (path : String) (e : ClassEntry) : List Remark :=
  onSuccess e.toClass fun c =>
    if c.isDefault then
      (if c.protocol.isSome || c.sourcePort.isSome || c.destinationPort.isSome then [.ignoredMatch path] else []) ++
        if e.priority.isSome then [.ignoredPriority path] else []
    else []

/-- The remarks on the detector. -/
def DetectorSection.remarks (s : DetectorSection) : List Remark :=
  (onSuccess s.toConfig fun c =>
    (if c.rateThreshold = 0 ∧ c.portScanThreshold = 0 ∧ c.sweepThreshold = 0 then [.noThresholds] else []) ++
      if c.maxAlerts = 0 then [.noAlertsKept] else []) ++
    eachPlace "ids.rules" s.rules fun path e => if e.payloadContains = some "" then [.emptyPayload path] else []

end Config

/-- Everything in a configuration that is probably not meant. -/
def Config.remarks (c : Config) : List Remark :=
  c.logging.unknown.map .unknownLogging ++
    (if c.plane.localAddresses = [] then [.noLocalAddresses] else []) ++
    c.firewall.remarks ++ eachPlace "nat.rules" c.nat NatEntry.remarks ++
    eachPlace "qos.classes" c.qos ClassEntry.remarks ++ c.ids.remarks

end Router
