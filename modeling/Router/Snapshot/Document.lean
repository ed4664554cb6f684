import Router.Snapshot
import Router.Toml.Reader
import Router.Toml.Writer

/-!
# The document of a snapshot

A snapshot is written as a TOML document and read back. Each of its lists may be missing, and names it does not know do
not count. The text is left to a library (`TomlLibrary`); one is at hand (`TomlLibrary.plain`).
-/

namespace Router

open Router.Document

instance : Record DefaultPolicy where
  fields d := textField "chain" d.chain.name ++ textField "action" d.verdict.name
  reader := do
    let chain ← keyword "chain"
    let verdict ← keyword "action"
    return { chain, verdict }

namespace Snapshot

/-- The lists of a snapshot, each with its records. -/
def recordLists (s : Snapshot) : List Toml.RecordList := [
  ⟨"firewall_defaults", s.firewallDefaults.map Record.fields⟩,
  ⟨"firewall_rules", s.firewallRules.map Record.fields⟩,
  ⟨"nat_rules", s.natRules.map Record.fields⟩,
  ⟨"qos_classes", s.qosClasses.map Record.fields⟩,
  ⟨"routes", s.routes.map Record.fields⟩]

/-- Reads the lists of a snapshot. -/
def reader : FieldReader Snapshot := do
  let dialect ← read
  let firewallDefaults ← .orElse "firewall_defaults" [] (Value.list? (Record.ofValue? dialect))
  let firewallRules ← .orElse "firewall_rules" [] (Value.list? (Record.ofValue? dialect))
  let natRules ← .orElse "nat_rules" [] (Value.list? (Record.ofValue? dialect))
  let qosClasses ← .orElse "qos_classes" [] (Value.list? (Record.ofValue? dialect))
  let routes ← .orElse "routes" [] (Value.list? (Record.ofValue? dialect))
  return { firewallDefaults, firewallRules, natRules, qosClasses, routes }

/-- The snapshot of a datum of a dialect. -/
def ofValue? (dialect : Dialect) (v : Value) : Option Snapshot :=
  reader.run dialect v

end Snapshot

/-! ## Text -/

/-- A library that writes snapshots as TOML and reads them. A failure comes with its wording. -/
structure TomlLibrary where
  write : Snapshot → Except String String
  read : String → Except String Snapshot

/-- The library made of the writer and the reader here. -/
def TomlLibrary.plain : TomlLibrary where
  write s := Toml.write s.recordLists
  read text :=
    match (Toml.read? text).bind (Snapshot.ofValue? .toml) with
    | some s => .ok s
    | none => .error "TOML"

namespace Snapshot

/-- The TOML text of a snapshot. -/
def toToml (library : TomlLibrary) (s : Snapshot) : Except Error String :=
  (library.write s).mapError fun reason => .malformed (.document reason)

/-- The snapshot of a TOML text. -/
def ofToml (library : TomlLibrary) (text : String) : Except Error Snapshot :=
  (library.read text).mapError fun reason => .malformed (.document reason)

end Snapshot

/-- A new router that takes over the configuration of a router by way of its document. -/
def Plane.replica (library : TomlLibrary) (pl : Plane) (now : Nat) : Except Error Plane := do
  let s ← (Snapshot.ofPlane pl).toToml library >>= Snapshot.ofToml library
  return ((Plane.new .default now).install now s).1

end Router
