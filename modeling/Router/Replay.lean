import Router.Config.Settings
import Router.Packet.Description
import Router.Plane.Loops

/-!
# Replaying a capture

All packets of a capture are processed at once; then time passes, a second after the other, until nothing waits. A
second fills every bucket, so each lets at least one packet go per round. The report tells what was read and written,
the alerts, and the counters that are not zero.
-/

namespace Router

/-- What a replay leaves behind. -/
structure Replay where
  plane : Plane
  capture : Capture

namespace Replay

/-- Sends what may leave, a second after the other, for at most `rounds` seconds. -/
def drain (batch : Nat) : (rounds now : Nat) → Replay → Replay
  | 0, _, r => r
  | rounds + 1, now, r =>
    if r.plane.qos.totalQueued = 0 then r
    else
      let out := r.plane.egress now batch (fun _ _ => true) false
      drain batch rounds (now + Duration.second) ⟨out.plane, out.taken.foldl Capture.write r.capture⟩

/-- The replay of a capture through a router. -/
def run (pl : Plane) (batch : Nat) (c : Capture) : Except Error Replay :=
  let read := pl.ingest (.still 0 .lowered) c
  match read.failure with
  | some e => .error e
  | none => .ok (drain batch (read.plane.qos.totalQueued + 1) 0 ⟨read.plane, read.capture⟩)

/-! ## The report -/

/-- A text filled up with blanks to a width. -/
def padded (width : Nat) (s : String) : String :=
  s ++ String.ofList (List.replicate (width - s.length) ' ')

/-- The number of frames for each interface, in ascending order of the names. -/
def framesByEgress (frames : List Frame) : List (String × Nat) :=
  let names := Ranking.rank (fun a b => a < b) (frames.map Frame.egress).eraseDups
  names.map fun name => (name, (frames.filter fun f => f.egress = name).length)

/-- The line for an alert. -/
def alertLine (a : Alert) : String :=
  let source := s!"{Address.describe? a.source}:{a.sourcePort.toNat}"
  let destination := s!"{Address.describe? a.destination}:{a.destinationPort.toNat}"
  s!"  {a.finding.kind.name} [{a.finding.severity.name.capitalize}] {a.finding.reason} {source} -> {destination}"

/-- The lines of the report. -/
def report (r : Replay) : List String :=
  [s!"packets read:    {r.capture.handedOut}", s!"packets written: {r.capture.written.length}"] ++
    (framesByEgress r.capture.written).map (fun (name, n) =>
      "  " ++ padded 14 (if name = "" then "(unrouted)" else name) ++ " " ++ toString n) ++
    (if r.plane.ids.alerts.isEmpty then [] else "alerts:" :: r.plane.ids.alerts.map alertLine) ++
    "metrics:" :: ((r.plane.metrics.entries.filter fun e => e.2 ≠ 0).map fun (name, n) =>
      "  " ++ padded 24 name ++ " " ++ toString n.toNat)

end Replay

end Router
