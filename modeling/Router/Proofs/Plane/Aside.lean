import Router.Metrics
import Router.Plane

/-!
# Counting aside

A packet is counted on its way, and nothing on its way asks for what was counted. So a change of the counters that does
not meet those of the way (`Metrics.Aside`) may be made before a packet is processed or after it: each stage commutes
with it, and so does the whole way (`process_onMetrics`). Main statement: what a packet is counted for leaves the
count of datagrams that could not be read and the tallies of the interfaces alone (`process_arrivals`).
-/

namespace Router

/-- A change of the counters that a packet on its way through the router makes no difference to. -/
def Metrics.Aside (F : Metrics → Metrics) : Prop :=
  ∀ m c, c ≠ .rxErrors → F (m.inc c) = (F m).inc c

/-- The router with its counters changed. -/
def Plane.onMetrics (pl : Plane) (F : Metrics → Metrics) : Plane :=
  { pl with metrics := F pl.metrics }

/-- The outcome with the counters of the router changed. -/
def Processed.onMetrics (r : Processed) (F : Metrics → Metrics) : Processed :=
  { r with plane := r.plane.onMetrics F }

namespace Plane

section Aside

variable {F : Metrics → Metrics} (hF : Metrics.Aside F) (pl : Plane) (now : Nat) (p : Packet)
include hF

theorem count_onMetrics {c : Counter} (hc : c ≠ .rxErrors) : (pl.onMetrics F).count c = (pl.count c).onMetrics F := by
  rw [onMetrics, onMetrics, count, count, hF pl.metrics c hc]

theorem route_onMetrics : (pl.onMetrics F).route p = ((pl.route p).1, (pl.route p).2.onMetrics F) := by
  have hrouting : (pl.onMetrics F).routing = pl.routing := rfl
  unfold route
  cases p.metadata.destination with
  | none => rfl
  | some a =>
    dsimp only
    rw [hrouting, count_onMetrics hF pl (by decide)]
    cases pl.routing.lookup a <;> rfl

theorem translate_onMetrics (rerouted : Bool) :
    (pl.onMetrics F).translate now p rerouted =
      ((pl.translate now p rerouted).1, (pl.translate now p rerouted).2.onMetrics F) := by
  have hnat : { pl.onMetrics F with nat := (pl.nat.apply now p).2 } =
      { pl with nat := (pl.nat.apply now p).2 }.onMetrics F := rfl
  have happly : (pl.onMetrics F).nat.apply now p = pl.nat.apply now p := rfl
  unfold translate
  dsimp only
  rw [happly, hnat, count_onMetrics hF _ (by decide), route_onMetrics hF]
  split
  · rfl
  · split <;> rfl

theorem forward_onMetrics : (pl.onMetrics F).forward now p = ((pl.forward now p).1, (pl.forward now p).2.onMetrics F) := by
  unfold forward
  rw [route_onMetrics hF]
  dsimp only
  rw [translate_onMetrics hF, translate_onMetrics hF]
  split <;> rfl

theorem filter_onMetrics : (pl.onMetrics F).filter p = ((pl.filter p).1, (pl.filter p).2.onMetrics F) := by
  have hcounter : ∀ verdict, verdictCounter verdict ≠ .rxErrors := fun verdict => by cases verdict <;> decide
  have hfirewall : ∀ firewall, { pl.onMetrics F with firewall } = { pl with firewall }.onMetrics F := fun _ => rfl
  have heval : (pl.onMetrics F).firewall.evaluate ((pl.onMetrics F).chainFor p.metadata.destination) p =
    pl.firewall.evaluate (pl.chainFor p.metadata.destination) p := rfl
  unfold filter
  dsimp only
  rw [heval, hfirewall, count_onMetrics hF _ (hcounter _)]

theorem inspect_onMetrics : (pl.onMetrics F).inspect now p = ((pl.inspect now p).1, (pl.inspect now p).2.onMetrics F) := by
  have hids : ∀ ids, { pl.onMetrics F with ids } = { pl with ids }.onMetrics F := fun _ => rfl
  have hdetect : (pl.onMetrics F).ids.detect now p = pl.ids.detect now p := rfl
  unfold inspect
  dsimp only
  rw [hdetect, hids, count_onMetrics hF _ (by decide)]
  split <;> rfl

theorem enqueue_onMetrics : (pl.onMetrics F).enqueue p = ((pl.enqueue p).1, (pl.enqueue p).2.onMetrics F) := by
  have hqos : ∀ qos, { pl.onMetrics F with qos } = { pl with qos }.onMetrics F := fun _ => rfl
  have henqueue : (pl.onMetrics F).qos.enqueue p = pl.qos.enqueue p := rfl
  unfold enqueue
  dsimp only
  rw [henqueue, hqos, count_onMetrics hF _ (by decide), ← apply_ite (onMetrics · F),
    count_onMetrics hF _ (by decide)]
  split <;> rfl

theorem process_onMetrics : (pl.onMetrics F).process now p = (pl.process now p).onMetrics F := by
  unfold process
  rw [forward_onMetrics hF]
  dsimp only
  rw [filter_onMetrics hF]
  dsimp only
  rw [inspect_onMetrics hF]
  dsimp only
  rw [enqueue_onMetrics hF, count_onMetrics hF _ (by decide)]
  dsimp only
  split
  · rfl
  · split
    · rfl
    · split <;> rfl

end Aside

/-- A packet on its way is no datagram that could not be read, and goes through no interface. -/
theorem process_arrivals (pl : Plane) (now : Nat) (p : Packet) :
    (pl.process now p).plane.metrics.totals.rxErrors = pl.metrics.totals.rxErrors ∧
      (pl.process now p).plane.metrics.interfaces = pl.metrics.interfaces := by
  -- To put both back to what they were is a change aside, and makes no difference before the packet.
  let F (m : Metrics) : Metrics := ⟨{ m.totals with rxErrors := pl.metrics.totals.rxErrors }, pl.metrics.interfaces⟩
  have hF : Metrics.Aside F := by
    intro m c hc
    cases c <;> first | rfl | exact absurd rfl hc
  have hsame : (pl.process now p).plane.metrics = F (pl.process now p).plane.metrics :=
    congrArg (fun r => r.plane.metrics) (process_onMetrics hF pl now p)
  rw [hsame]
  exact ⟨rfl, rfl⟩

end Plane

end Router
