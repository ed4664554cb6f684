import Router.Config.Diagnosis
import Router.Snapshot

/-!
# From a configuration to a router

A configuration without defects becomes settings, and settings become a router; otherwise all defects are reported at
once.
-/

namespace Router

/-- A configuration ready to be used. -/
structure Settings where
  snapshot : Snapshot
  detector : DetectorConfig
  signatures : List Signature
  localAddresses : List Address
  deriving DecidableEq, Repr

namespace Config

/-- A conversion whose fault refuses the whole configuration. -/
def accept {α : Type} (r : Except EntryFault α) : Except Error α :=
  r.mapError fun fault => .config (.entries [fault.message])

/-- The settings of a configuration, or the first entry that does not convert. -/
def convert (c : Config) : Except Error Settings := do
  let defaults ← accept c.firewall.toDefaults
  let firewallRules ← accept (c.firewall.rules.mapM FilterEntry.toRule)
  let natRules ← accept (c.nat.mapM NatEntry.toRule)
  let qosClasses ← accept (c.qos.mapM ClassEntry.toClass)
  let routes ← accept (c.routes.mapM RouteEntry.toRoute)
  let detector ← accept c.ids.toConfig
  let signatures ← accept (c.ids.rules.mapM SignatureEntry.toSignature)
  let localAddresses ← accept c.plane.toAddresses
  return {
    snapshot := {
      firewallDefaults := defaults.entries.map fun (chain, verdict) => ⟨chain, verdict⟩
      firewallRules, natRules, qosClasses, routes }
    detector, signatures, localAddresses }

/-- The settings of a configuration, or all its defects. -/
def compile (c : Config) : Except Error Settings :=
  if c.defects = [] then c.convert
  else .error (.config (.entries (c.defects.map Defect.message)))

end Config

/-- The router of settings. -/
def Settings.toPlane (s : Settings) (now : Nat) : Plane :=
  let pl := Plane.new s.detector now
  let pl := { pl with
    localAddresses := s.localAddresses
    ids := { pl.ids with signatures := s.signatures } }
  (pl.install now s.snapshot).1

end Router
