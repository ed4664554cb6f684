import Router.Config.Basic
import Router.Document.Rules
import Router.Toml.Reader

/-!
# Reading the configuration file

The file is a TOML document with a section for each engine. Sections, lists and most fields may be missing, and names
that are not known do not count. The text is left to a library (`TomlReader`); one is at hand (`TomlReader.plain`).
-/

namespace Router

open Router.Document

namespace Config

/-- An optional text. -/
def textByName (name : String) : FieldReader (Option String) :=
  .optionalByName name Value.text?

/-- An optional word of 64 bits. -/
def word64ByName (name : String) : FieldReader (Option UInt64) :=
  .optionalByName name Value.word64?

/-- The logging section. -/
def loggingReader : FieldReader LogConfig := do
  let level ← .orElse "level" LogConfig.default.level Value.text?
  let format ← .orElse "format" LogConfig.default.format Value.text?
  return { level, format }

/-- The section of the loops. -/
def planeReader : FieldReader PlaneSection := do
  let localAddresses ← .orElse "local_addresses" [] (Value.list? Value.text?)
  let egressBatch ← word64ByName "egress_batch"
  let egressIdleMs ← word64ByName "egress_idle_ms"
  let flowTimeoutSecs ← word64ByName "flow_timeout_secs"
  let maintenanceIntervalSecs ← word64ByName "maintenance_interval_secs"
  return { localAddresses, egressBatch, egressIdleMs, flowTimeoutSecs, maintenanceIntervalSecs }

/-- A route. -/
def routeReader : FieldReader RouteEntry := do
  let destination ← .required "destination" Value.text?
  let gateway ← textByName "gateway"
  let interface ← .required "interface" Value.text?
  let metric ← .optionalByName "metric" Value.word32?
  return { destination, gateway, interface, metric }

/-- A filter rule. -/
def filterReader : FieldReader FilterEntry := do
  let chain ← .required "chain" Value.text?
  let action ← .required "action" Value.text?
  let protocol ← textByName "protocol"
  let source ← textByName "src"
  let destination ← textByName "dst"
  let sourcePort ← textByName "src_port"
  let destinationPort ← textByName "dst_port"
  let inInterface ← textByName "in_interface"
  let outInterface ← textByName "out_interface"
  return { chain, action, protocol, source, destination, sourcePort, destinationPort, inInterface, outInterface }

/-- Texts by name, in ascending order of the names. -/
def textTable? (v : Value) : Option (List (String × String)) := do
  let entries ← v.entries?
  let entries ← entries.mapM fun (name, v) => v.text?.map (name, ·)
  return Ranking.rank (fun a b => a.1 < b.1) entries

/-- The section of the filter. -/
def firewallReader : FieldReader FilterSection := do
  let defaults ← .orElse "defaults" [] textTable?
  let rules ← .orElse "rules" [] (Value.list? (filterReader.run .toml))
  return { defaults, rules }

/-- A NAT rule. -/
def natReader : FieldReader NatEntry := do
  let kind ← .required "type" Value.text?
  let source ← textByName "src"
  let destination ← textByName "dst"
  let sourcePort ← textByName "src_port"
  let destinationPort ← textByName "dst_port"
  let toAddress ← .required "to_ip" Value.text?
  let toPort ← .optionalByName "to_port" Value.word16?
  return { kind, source, destination, sourcePort, destinationPort, toAddress, toPort }

/-- A traffic class. -/
def classReader : FieldReader ClassEntry := do
  let name ← .required "name" Value.text?
  let protocol ← textByName "protocol"
  let sourcePort ← textByName "src_port"
  let destinationPort ← textByName "dst_port"
  let rateKbps ← word64ByName "rate_kbps"
  let priority ← .optionalByName "priority" Value.int32?
  let maxQueue ← word64ByName "max_queue"
  let dropPolicy ← textByName "drop_policy"
  return { name, protocol, sourcePort, destinationPort, rateKbps, priority, maxQueue, dropPolicy }

/-- A signature. -/
def signatureReader : FieldReader SignatureEntry := do
  let name ← .required "name" Value.text?
  let protocol ← textByName "protocol"
  let source ← textByName "src"
  let destination ← textByName "dst"
  let sourcePort ← textByName "src_port"
  let destinationPort ← textByName "dst_port"
  let payloadContains ← textByName "payload_contains"
  let action ← textByName "action"
  return { name, protocol, source, destination, sourcePort, destinationPort, payloadContains, action }

/-- The section of the detector. -/
def idsReader : FieldReader DetectorSection := do
  let windowSecs ← word64ByName "window_secs"
  let rateThreshold ← word64ByName "rate_threshold"
  let portScanThreshold ← word64ByName "port_scan_threshold"
  let sweepThreshold ← word64ByName "unique_dst_threshold"
  let behaviour ← textByName "behavior_action"
  let maxAlerts ← word64ByName "max_alerts"
  let rules ← .orElse "rules" [] (Value.list? (signatureReader.run .toml))
  return { windowSecs, rateThreshold, portScanThreshold, sweepThreshold, behaviour, maxAlerts, rules }

/-- A section that holds only a list. -/
def listSectionReader {α : Type} (name : String) (read? : Value → Option α) : FieldReader (List α) :=
  .orElse name [] (Value.list? read?)

/-- The whole configuration. -/
def reader : FieldReader Config := do
  let logging ← .orElse "logging" .default (loggingReader.run .toml)
  let plane ← .orElse "dataplane" .default (planeReader.run .toml)
  let routes ← .orElse "routes" [] (Value.list? (routeReader.run .toml))
  let firewall ← .orElse "firewall" ⟨[], []⟩ (firewallReader.run .toml)
  let nat ← .orElse "nat" [] ((listSectionReader "rules" (natReader.run .toml)).run .toml)
  let qos ← .orElse "qos" [] ((listSectionReader "classes" (classReader.run .toml)).run .toml)
  let ids ← .orElse "ids" .default (idsReader.run .toml)
  return { logging, plane, routes, firewall, nat, qos, ids }

/-- A library that reads configurations from TOML. A failure comes with its wording. -/
abbrev TomlReader := String → Except String Config

/-- The library made of the reader of TOML here. -/
def TomlReader.plain : TomlReader := fun text =>
  match (Toml.read? text).bind (reader.run .toml) with
  | some c => .ok c
  | none => .error "TOML"

/-- The configuration of a TOML text. -/
def ofToml (library : TomlReader) (text : String) : Except Error Config :=
  (library text).mapError fun reason => .config (.document reason)

/-- The configuration of a file, given its content or why there is none. -/
def ofFile (library : TomlReader) (content : Except FileFault ByteArray) : Except Error Config :=
  match content with
  | .error fault => .error (.file fault)
  | .ok bytes =>
    match String.fromUTF8? bytes with
    | some text => ofToml library text
    | none => .error (.file .notText)

end Config

end Router
