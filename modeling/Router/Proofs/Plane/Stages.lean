import Router.Plane.Loops
import Router.Proofs.Shaping.Waiting

/-!
# What each stage does

The stages before the queues leave the queues and the routes alone and keep the ticket of the packet (`forward_qos`,
`ticket_forward`). Of the counters that tell what became of a packet, each stage counts its own (`counts_forward`,
`counts_filter`, `counts_inspect`, `counts_enqueue`), and sending counts one for each packet (`counts_send`). Main
statement: a packet is refused by the filter, stopped by the detector or offered to the queues, which settles what is
given up, what waits and what is counted (`settled_process`).
-/

namespace Router

/-! ## Counters of what became of packets -/

/-- Whether a counter tells what became of packets: how the filter judged them, and where they ended after that. -/
def Counter.tellsFate : Counter → Bool
  | .filterAccepted | .filterDropped | .filterRejected => true
  | .idsBlocked | .qosDropped | .packetsTransmitted | .txErrors => true
  | .rxErrors | .noRoute | .natTranslated | .idsAlerts | .qosEnqueued => false

namespace Metrics

variable {m m' m'' : Metrics} {counted counted' : List Counter} {c : Counter}

/-- From one state of the metrics to the other, the counters that tell what became of packets were increased as often
as they are listed. -/
def Counts (m m' : Metrics) (counted : List Counter) : Prop :=
  ∀ c : Counter, c.tellsFate = true → m'.totals.get c = m.totals.get c + UInt64.ofNat (counted.count c)

theorem Counts.refl (m : Metrics) : Counts m m [] :=
  fun c _ => (UInt64.add_zero (m.totals.get c)).symm

theorem Counts.trans (h : Counts m m' counted) (h' : Counts m' m'' counted') : Counts m m'' (counted ++ counted') := by
  intro c hc
  rw [h' c hc, h c hc, List.count_append, UInt64.ofNat_add, UInt64.add_assoc]

theorem counts_inc (m : Metrics) (c : Counter) : Counts m (m.inc c) [c] := by
  intro d _
  by_cases hd : d = c
  · simp [inc, add, Totals.get_add, hd]
  · simp [inc, add, Totals.get_add, hd, Ne.symm hd]

/-- Counters that tell nothing of packets need not be listed. -/
theorem Counts.inc_other (h : Counts m m' counted) (hc : c.tellsFate = false) : Counts m (m'.inc c) counted := by
  intro d hd
  have hne : d ≠ c := fun h => by rw [h, hc] at hd; cases hd
  rw [← h d hd]
  simp [inc, add, Totals.get_add, hne]

end Metrics

namespace Plane

open Metrics

variable {pl : Plane} {p : Packet} {now : Nat}

/-! ## Before the queues -/

@[simp] theorem count_routing (pl : Plane) (c : Counter) : (pl.count c).routing = pl.routing := rfl

@[simp] theorem count_nat (pl : Plane) (c : Counter) : (pl.count c).nat = pl.nat := rfl

@[simp] theorem count_qos (pl : Plane) (c : Counter) : (pl.count c).qos = pl.qos := rfl

@[simp] theorem count_metrics (pl : Plane) (c : Counter) : (pl.count c).metrics = pl.metrics.inc c := rfl

/-- A look-up changes no more than the interface of the packet and the count of those without a route. -/
theorem route_cases (pl : Plane) (p : Packet) :
    (∃ egress, pl.route p = ({ p with egress }, pl)) ∨ pl.route p = (p, pl.count .noRoute) := by
  unfold route
  split
  · exact .inl ⟨p.egress, rfl⟩
  · split
    · exact .inl ⟨_, rfl⟩
    · exact .inr rfl

@[simp] theorem route_routing (pl : Plane) (p : Packet) : (pl.route p).2.routing = pl.routing := by
  obtain ⟨_, h⟩ | h := pl.route_cases p
  · rw [h]
  · rw [h, count_routing]

@[simp] theorem route_nat (pl : Plane) (p : Packet) : (pl.route p).2.nat = pl.nat := by
  obtain ⟨_, h⟩ | h := pl.route_cases p
  · rw [h]
  · rw [h, count_nat]

@[simp] theorem route_qos (pl : Plane) (p : Packet) : (pl.route p).2.qos = pl.qos := by
  obtain ⟨_, h⟩ | h := pl.route_cases p
  · rw [h]
  · rw [h, count_qos]

@[simp] theorem ticket_route (pl : Plane) (p : Packet) : (pl.route p).1.ticket = p.ticket := by
  obtain ⟨_, h⟩ | h := pl.route_cases p
  · rw [h]
  · rw [h]

theorem counts_route (pl : Plane) (p : Packet) : Counts pl.metrics (pl.route p).2.metrics [] := by
  obtain ⟨_, h⟩ | h := pl.route_cases p
  · rw [h]
    exact .refl pl.metrics
  · rw [h]
    exact (Counts.refl pl.metrics).inc_other rfl

/-- NAT changes no more than its own table and counters, whether the packet is routed again or not. -/
theorem translate_plane (pl : Plane) (now : Nat) (p : Packet) (rerouted : Bool) :
    ∃ nat metrics, (pl.translate now p rerouted).2 = { pl with nat, metrics } := by
  unfold translate
  dsimp only
  split
  · exact ⟨_, _, rfl⟩
  · split
    · obtain ⟨_, h⟩ | h := route_cases _ (pl.nat.apply now p).1
      · exact ⟨_, _, congrArg Prod.snd h⟩
      · exact ⟨_, _, congrArg Prod.snd h⟩
    · exact ⟨_, _, rfl⟩

@[simp] theorem translate_qos (pl : Plane) (now : Nat) (p : Packet) (rerouted : Bool) :
    (pl.translate now p rerouted).2.qos = pl.qos := by
  obtain ⟨_, _, h⟩ := pl.translate_plane now p rerouted
  rw [h]

@[simp] theorem translate_routing (pl : Plane) (now : Nat) (p : Packet) (rerouted : Bool) :
    (pl.translate now p rerouted).2.routing = pl.routing := by
  obtain ⟨_, _, h⟩ := pl.translate_plane now p rerouted
  rw [h]

theorem ticket_apply (t : NatTable) (now : Nat) (p : Packet) : (t.apply now p).1.ticket = p.ticket := by
  unfold NatTable.apply
  split
  · rfl
  · split
    · rfl
    · split <;> rfl

@[simp] theorem ticket_translate (pl : Plane) (now : Nat) (p : Packet) (rerouted : Bool) :
    (pl.translate now p rerouted).1.ticket = p.ticket := by
  have hnat := ticket_apply pl.nat now p
  unfold translate
  dsimp only
  split
  · exact hnat
  · split
    · rw [ticket_route]
      exact hnat
    · exact hnat

theorem counts_translate (pl : Plane) (now : Nat) (p : Packet) (rerouted : Bool) :
    Counts pl.metrics (pl.translate now p rerouted).2.metrics [] := by
  unfold translate
  dsimp only
  split
  · exact .refl pl.metrics
  · have htranslated : Counts pl.metrics (pl.metrics.inc .natTranslated) [] := (Counts.refl pl.metrics).inc_other rfl
    split
    · exact htranslated.trans (counts_route _ _)
    · exact htranslated

@[simp] theorem forward_qos (pl : Plane) (now : Nat) (p : Packet) : (pl.forward now p).2.qos = pl.qos := by
  unfold forward
  split <;> simp

@[simp] theorem forward_routing (pl : Plane) (now : Nat) (p : Packet) :
    (pl.forward now p).2.routing = pl.routing := by
  unfold forward
  split <;> simp

theorem ticket_forward (pl : Plane) (now : Nat) (p : Packet) : (pl.forward now p).1.ticket = p.ticket := by
  unfold forward
  split <;> simp

theorem counts_forward (pl : Plane) (now : Nat) (p : Packet) : Counts pl.metrics (pl.forward now p).2.metrics [] := by
  unfold forward
  split
  · exact (counts_route pl p).trans (counts_translate _ now _ true)
  · exact counts_translate pl now p false

@[simp] theorem filter_qos (pl : Plane) (p : Packet) : (pl.filter p).2.qos = pl.qos := rfl

@[simp] theorem filter_routing (pl : Plane) (p : Packet) : (pl.filter p).2.routing = pl.routing := rfl

theorem counts_filter (pl : Plane) (p : Packet) :
    Counts pl.metrics (pl.filter p).2.metrics [verdictCounter (pl.filter p).1] :=
  counts_inc pl.metrics _

@[simp] theorem inspect_qos (pl : Plane) (now : Nat) (p : Packet) : (pl.inspect now p).2.qos = pl.qos := by
  unfold inspect
  dsimp only
  split <;> rfl

@[simp] theorem inspect_routing (pl : Plane) (now : Nat) (p : Packet) :
    (pl.inspect now p).2.routing = pl.routing := by
  unfold inspect
  dsimp only
  split <;> rfl

theorem counts_inspect (pl : Plane) (now : Nat) (p : Packet) : Counts pl.metrics (pl.inspect now p).2.metrics [] := by
  unfold inspect
  dsimp only
  split
  · exact (Counts.refl pl.metrics).inc_other rfl
  · exact .refl pl.metrics

/-! ## At the queues -/

@[simp] theorem enqueue_fst (pl : Plane) (p : Packet) : (pl.enqueue p).1 = (pl.qos.enqueue p).1 := rfl

@[simp] theorem enqueue_qos (pl : Plane) (p : Packet) : (pl.enqueue p).2.qos = (pl.qos.enqueue p).2 := by
  unfold enqueue
  dsimp only
  split <;> split <;> rfl

@[simp] theorem enqueue_routing (pl : Plane) (p : Packet) : (pl.enqueue p).2.routing = pl.routing := by
  unfold enqueue
  dsimp only
  split <;> split <;> rfl

theorem enqueue_metrics (pl : Plane) (p : Packet) :
    (pl.enqueue p).2.metrics =
      let m := if (pl.qos.enqueue p).1.dropped then pl.metrics.inc .qosDropped else pl.metrics
      if (pl.qos.enqueue p).1.accepted then m.inc .qosEnqueued else m := by
  unfold enqueue
  dsimp only
  split <;> split <;> rfl

/-- One counter for a packet that is given up. -/
def dropCounters : Option Packet → List Counter
  | none => []
  | some _ => [.qosDropped]

theorem counts_enqueue (pl : Plane) (p : Packet) :
    Counts pl.metrics (pl.enqueue p).2.metrics (dropCounters (pl.qos.enqueue p).1.discarded) := by
  have hdropped : Counts pl.metrics
      (if (pl.qos.enqueue p).1.dropped then pl.metrics.inc .qosDropped else pl.metrics)
      (dropCounters (pl.qos.enqueue p).1.discarded) := by
    unfold Admission.dropped
    cases (pl.qos.enqueue p).1.discarded with
    | none => exact .refl pl.metrics
    | some _ => exact counts_inc pl.metrics .qosDropped
  rw [enqueue_metrics]
  dsimp only
  split
  · exact hdropped.inc_other rfl
  · exact hdropped

/-! ## The whole way -/

/-- A packet that was judged and inspected is refused, stopped or offered to the queues. -/
theorem process_cases (pl : Plane) (now : Nat) (p : Packet) :
    ∃ verdict judged, judged.qos = pl.qos ∧ Counts pl.metrics judged.metrics [verdictCounter verdict] ∧
      ((verdict ≠ .accept ∧ (pl.process now p).plane = judged ∧
          (pl.process now p).discarded = some (pl.forward now p).1) ∨
        (verdict = .accept ∧ (pl.process now p).plane = judged.count .idsBlocked ∧
          (pl.process now p).discarded = some (pl.forward now p).1) ∨
        (verdict = .accept ∧ (pl.process now p).plane = (judged.enqueue (pl.forward now p).1).2 ∧
          (pl.process now p).discarded = (judged.enqueue (pl.forward now p).1).1.discarded)) := by
  have hcounts := (counts_forward pl now p).trans
    ((counts_filter (pl.forward now p).2 (pl.forward now p).1).trans (counts_inspect _ now (pl.forward now p).1))
  refine ⟨_, _, ?_, hcounts, ?_⟩
  · simp
  · unfold process
    dsimp only
    split
    · rename_i hverdict
      exact .inl ⟨hverdict, rfl, rfl⟩
    · rename_i hverdict
      split
      · exact .inr (.inl ⟨Classical.not_not.1 hverdict, rfl, rfl⟩)
      · refine .inr (.inr ⟨Classical.not_not.1 hverdict, ?_⟩)
        split <;> exact ⟨rfl, rfl⟩

theorem process_routing (pl : Plane) (now : Nat) (p : Packet) : (pl.process now p).plane.routing = pl.routing := by
  unfold process
  dsimp only
  split
  · simp
  · split
    · simp
    · split <;> simp

/-- How a packet that comes to the filter can end: what is given up, what waits, and what is counted of it. -/
inductive Settled (qos : Scheduler) (p : Packet) : Option Packet → Scheduler → List Counter → Prop
  | filtered (verdict : Verdict) : verdict ≠ .accept → Settled qos p (some p) qos [verdictCounter verdict]
  | blocked : Settled qos p (some p) qos [.filterAccepted, .idsBlocked]
  | offered : Settled qos p (qos.enqueue p).1.discarded (qos.enqueue p).2
      (.filterAccepted :: dropCounters (qos.enqueue p).1.discarded)

theorem settled_process (pl : Plane) (now : Nat) (p : Packet) :
    ∃ counted, Counts pl.metrics (pl.process now p).plane.metrics counted ∧
      Settled pl.qos (pl.forward now p).1 (pl.process now p).discarded (pl.process now p).plane.qos counted := by
  obtain ⟨verdict, judged, hqos, hcounts, h⟩ := process_cases pl now p
  rw [← hqos]
  obtain ⟨hverdict, hplane, hdiscarded⟩ | ⟨rfl, hplane, hdiscarded⟩ | ⟨rfl, hplane, hdiscarded⟩ := h
  · rw [hplane, hdiscarded]
    exact ⟨_, hcounts, .filtered verdict hverdict⟩
  · rw [hplane, hdiscarded]
    exact ⟨_, hcounts.trans (counts_inc judged.metrics .idsBlocked), .blocked⟩
  · rw [hplane, hdiscarded, enqueue_qos, enqueue_fst]
    exact ⟨_, hcounts.trans (counts_enqueue judged (pl.forward now p).1), .offered⟩

section Settled

variable {qos qos' : Scheduler} {discarded : Option Packet} {counted : List Counter}

/-- Whatever becomes of a packet, it waits or is given up, and so is every other that waited. -/
theorem Settled.waiting (h : Settled qos p discarded qos' counted) :
    (discarded.toList ++ qos'.waiting).Perm (p :: qos.waiting) := by
  cases h with
  | filtered verdict hverdict => exact .refl _
  | blocked => exact .refl _
  | offered => exact qos.waiting_enqueue p

theorem Settled.classes (h : Settled qos p discarded qos' counted) : qos'.classes = qos.classes := by
  cases h with
  | filtered verdict hverdict => rfl
  | blocked => rfl
  | offered => exact qos.classes_enqueue p

end Settled

/-! ## Out -/

/-- What is counted of packets that are sent. -/
def sendCounters (sends : Nat → Frame → Bool) (number : Nat) : List Packet → List Counter
  | [] => []
  | p :: rest =>
    (if sends number p.frame then .packetsTransmitted else .txErrors) :: sendCounters sends (number + 1) rest

theorem counts_send (m : Metrics) (sends : Nat → Frame → Bool) (number : Nat) (packets : List Packet) :
    Counts m (send m sends number packets).2 (sendCounters sends number packets) := by
  induction packets generalizing m number with
  | nil => exact .refl m
  | cons p rest ih =>
    rw [send, sendCounters]
    split
    · have hsent : Counts m (m.sent p.egress p.length) [.packetsTransmitted] := counts_inc m _
      exact hsent.trans (ih _ _)
    · have hfailed : Counts m (m.failed p.egress) [.txErrors] := counts_inc m _
      exact hfailed.trans (ih _ _)

theorem counts_egressOnce (pl : Plane) (now batch : Nat) (sends : Nat → Frame → Bool) :
    Counts pl.metrics (pl.egressOnce now batch sends).plane.metrics
      (sendCounters sends 0 (pl.egressOnce now batch sends).taken) :=
  counts_send pl.metrics sends 0 (pl.qos.dequeueBatch now batch).1

/-- The packets of a batch are taken out, whether they can be sent or not. -/
theorem waiting_egressOnce (pl : Plane) (now batch : Nat) (sends : Nat → Frame → Bool) :
    ((pl.egressOnce now batch sends).taken ++ (pl.egressOnce now batch sends).plane.qos.waiting).Perm
      pl.qos.waiting :=
  pl.qos.waiting_dequeueBatch now batch

theorem classes_egressOnce (pl : Plane) (now batch : Nat) (sends : Nat → Frame → Bool) :
    (pl.egressOnce now batch sends).plane.qos.classes = pl.qos.classes :=
  pl.qos.classes_dequeueBatch now batch

end Plane

end Router
