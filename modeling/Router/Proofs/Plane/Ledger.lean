import Router.Config.Settings
import Router.Proofs.Plane.Stages

/-!
# The balance of packets

A router is told events one after another: a packet to process, a batch to send, the passing of time
(`PlaneState.run`). Each event makes entries in the counters that fit what it does to the queues (`Settled.entries`,
`entries_send`). Main statement: after any events of a router that started without packets, the counters of the filter
add up to the packets processed, and those it accepted are the ones stopped by the detector, given up for a full queue,
waiting, sent and failed to send (`balanced_run`).
-/

namespace Router

namespace Plane

open Metrics

variable {pl pl' : Plane} {p : Packet} {qos qos' : Scheduler} {counted : List Counter}

/-! ## A router before its first packet -/

/-- A router that counted nothing yet, and in which no packet waits. -/
structure Fresh (pl : Plane) : Prop where
  uncounted : pl.metrics = .zero
  empty : pl.qos.totalQueued = 0

theorem fresh_new (config : DetectorConfig) (now : Nat) : (Plane.new config now).Fresh :=
  ⟨rfl, rfl⟩

theorem Fresh.install (h : pl.Fresh) (hnamed : pl.qos.Named) (now : Nat) (s : Snapshot) :
    (pl.install now s).1.Fresh := by
  refine ⟨h.uncounted, ?_⟩
  have hwaiting := pl.qos.waiting_replace hnamed now s.qosClasses
  rw [(pl.qos.totalQueued_eq_zero_iff).1 h.empty] at hwaiting
  have hnone := (List.append_eq_nil_iff.1 hwaiting.eq_nil).2
  exact (Scheduler.totalQueued_eq_zero_iff _).2 hnone

/-- Whatever the settings are. -/
theorem fresh_toPlane (s : Settings) (now : Nat) : (s.toPlane now).Fresh := by
  have h := fresh_new s.detector now
  refine Fresh.install ?_ (Scheduler.named_new now) now s.snapshot
  exact ⟨h.uncounted, h.empty⟩

/-! ## Entries -/

/-- What was counted fits what happened to the queues: so many packets were judged, and those that were accepted are
with those that waited before the ones that ended and that wait afterwards. -/
structure Entries (qos qos' : Scheduler) (judged : Nat) (counted : List Counter) : Prop where
  judged : counted.count .filterAccepted + counted.count .filterDropped + counted.count .filterRejected = judged
  settled : counted.count .filterAccepted + qos.waiting.length =
    counted.count .idsBlocked + counted.count .qosDropped + qos'.waiting.length +
      counted.count .packetsTransmitted + counted.count .txErrors

theorem count_dropCounters (discarded : Option Packet) (c : Counter) :
    (dropCounters discarded).count c = if c = .qosDropped then discarded.toList.length else 0 := by
  cases discarded with
  | none => simp [dropCounters]
  | some p => cases c <;> rfl

theorem Settled.entries {discarded : Option Packet} (h : Settled qos p discarded qos' counted) :
    Entries qos qos' 1 counted := by
  have hlength := h.waiting.length_eq
  cases h with
  | filtered verdict hverdict =>
    cases verdict with
    | accept => exact absurd rfl hverdict
    | drop => exact ⟨rfl, by simp [verdictCounter]⟩
    | reject => exact ⟨rfl, by simp [verdictCounter]⟩
  | blocked => exact ⟨rfl, by simp⟩
  | offered =>
    rw [List.length_append, List.length_cons] at hlength
    constructor
    · simp [count_dropCounters]
    · simp [count_dropCounters]
      omega

/-- Sending counts each packet once, and no other counter. -/
theorem count_sendCounters (sends : Nat → Frame → Bool) (number : Nat) (packets : List Packet) :
    (sendCounters sends number packets).count .packetsTransmitted + (sendCounters sends number packets).count .txErrors =
        packets.length ∧
      ∀ c, c ≠ .packetsTransmitted → c ≠ .txErrors → (sendCounters sends number packets).count c = 0 := by
  induction packets generalizing number with
  | nil => exact ⟨rfl, fun _ _ _ => rfl⟩
  | cons p rest ih =>
    obtain ⟨hsent, hother⟩ := ih (number + 1)
    rw [sendCounters]
    refine ⟨?_, fun c hc hc' => ?_⟩
    · split <;> simp <;> omega
    · have hne : (if sends number p.frame then Counter.packetsTransmitted else .txErrors) ≠ c := by
        split
        · exact hc.symm
        · exact hc'.symm
      rw [List.count_cons_of_ne hne]
      exact hother c hc hc'

theorem entries_send (sends : Nat → Frame → Bool) (number : Nat) {taken : List Packet}
    (h : (taken ++ qos'.waiting).Perm qos.waiting) : Entries qos qos' 0 (sendCounters sends number taken) := by
  obtain ⟨hsent, hother⟩ := count_sendCounters sends number taken
  have hlength := h.length_eq
  rw [List.length_append] at hlength
  constructor
  · simp [hother]
  · simp [hother]
    omega

/-! ## The balance -/

/-- The counters of the filter add up to the packets that were processed, and the packets that it accepted are those
stopped by the detector, given up for a full queue, waiting, sent and failed to send; all modulo `2 ^ 64`. -/
structure Balanced (pl : Plane) (processed : Nat) : Prop where
  judged : UInt64.ofNat processed =
    pl.metrics.totals.filterAccepted + pl.metrics.totals.filterDropped + pl.metrics.totals.filterRejected
  settled : pl.metrics.totals.filterAccepted =
    pl.metrics.totals.idsBlocked + pl.metrics.totals.qosDropped + UInt64.ofNat pl.qos.totalQueued +
      pl.metrics.totals.packetsTransmitted + pl.metrics.totals.txErrors

theorem Fresh.balanced (h : pl.Fresh) : pl.Balanced 0 := by
  constructor <;> rw [h.uncounted]
  · rfl
  · rw [h.empty]
    rfl

/-- Entries that fit keep the balance. -/
theorem Balanced.carry {processed judged : Nat} (h : pl.Balanced processed)
    (hcounts : Counts pl.metrics pl'.metrics counted) (hentries : Entries pl.qos pl'.qos judged counted) :
    pl'.Balanced (processed + judged) := by
  have hjudged := congrArg UInt64.ofNat hentries.judged
  have hsettled := congrArg UInt64.ofNat hentries.settled
  simp only [UInt64.ofNat_add] at hjudged hsettled
  have haccepted := hcounts .filterAccepted rfl
  have hdropped := hcounts .filterDropped rfl
  have hrejected := hcounts .filterRejected rfl
  have hblocked := hcounts .idsBlocked rfl
  have hgiven := hcounts .qosDropped rfl
  have hsent := hcounts .packetsTransmitted rfl
  have hfailed := hcounts .txErrors rfl
  simp only [Totals.get] at haccepted hdropped hrejected hblocked hgiven hsent hfailed
  obtain ⟨hbefore, hbefore'⟩ := h
  generalize pl.metrics.totals = t at *
  constructor
  · rw [UInt64.ofNat_add, ← hjudged, hbefore, haccepted, hdropped, hrejected]
    ac_rfl
  · rw [Scheduler.totalQueued_eq] at hbefore' ⊢
    rw [hblocked, hgiven, hsent, hfailed, haccepted, hbefore']
    -- What had ended before stands aside, and the entries exchange the rest.
    let ended := t.idsBlocked + t.qosDropped + t.packetsTransmitted + t.txErrors
    calc
      _ = ended + (UInt64.ofNat (counted.count .filterAccepted) + UInt64.ofNat pl.qos.waiting.length) := by
        simp only [ended]
        ac_rfl
      _ = _ := by
        rw [hsettled]
        simp only [ended]
        ac_rfl

end Plane

/-! ## Events -/

/-- What a router is told. -/
inductive PlaneEvent
  | process (p : Packet)
  /-- Up to `batch` packets leave; `sends` tells by number and frame whether sending succeeds. -/
  | egress (batch : Nat) (sends : Nat → Frame → Bool)
  /-- Time goes by, in nanoseconds. -/
  | wait (duration : Nat)

/-- Whether a packet is to be processed. -/
def PlaneEvent.isProcess : PlaneEvent → Bool
  | .process _ => true
  | .egress .. | .wait _ => false

/-- A router at a time. -/
structure PlaneState where
  plane : Plane
  now : Nat

namespace PlaneState

variable {s : PlaneState} {pl : Plane} {processed : Nat}

/-- The state after an event. -/
def step (s : PlaneState) : PlaneEvent → PlaneState
  | .process p => { s with plane := (s.plane.process s.now p).plane }
  | .egress batch sends => { s with plane := (s.plane.egressOnce s.now batch sends).plane }
  | .wait duration => { s with now := s.now + duration }

/-- The state after events. -/
def run (s : PlaneState) (events : List PlaneEvent) : PlaneState :=
  events.foldl step s

theorem balanced_step (h : s.plane.Balanced processed) (e : PlaneEvent) :
    (s.step e).plane.Balanced (processed + if e.isProcess then 1 else 0) := by
  cases e with
  | process p =>
    obtain ⟨counted, hcounts, hsettled⟩ := s.plane.settled_process s.now p
    exact h.carry hcounts hsettled.entries
  | egress batch sends =>
    have hcounts := s.plane.counts_egressOnce s.now batch sends
    exact h.carry hcounts (Plane.entries_send sends 0 (s.plane.waiting_egressOnce s.now batch sends))
  | wait duration => exact h

theorem balanced_from (h : s.plane.Balanced processed) (events : List PlaneEvent) :
    (s.run events).plane.Balanced (processed + events.countP PlaneEvent.isProcess) := by
  induction events generalizing s processed with
  | nil => exact h
  | cons e rest ih =>
    have hrest := ih (balanced_step h e)
    rw [List.countP_cons, Nat.add_comm (rest.countP _), ← Nat.add_assoc]
    exact hrest

/-- In every state the filter judged each processed packet, and each that it accepted was stopped by the detector,
given up for a full queue, waits, was sent or failed to send. -/
theorem balanced_run (h : pl.Fresh) (now : Nat) (events : List PlaneEvent) :
    (run ⟨pl, now⟩ events).plane.Balanced (events.countP PlaneEvent.isProcess) := by
  have hbalanced := balanced_from (s := ⟨pl, now⟩) h.balanced events
  rwa [Nat.zero_add] at hbalanced

/-! ## Full queues of both kinds -/

/-- Lets everything through to two classes with room for one packet each, of which one gives up the oldest. -/
def crowdedSettings : Settings where
  snapshot := { Snapshot.empty with
    firewallDefaults := [⟨.forward, .accept⟩]
    qosClasses := [
      { TrafficClass.plain "voice" 10 with protocol := some .udp, maxQueue := 1, dropPolicy := .head },
      { TrafficClass.plain "bulk" 5 with protocol := some .tcp, maxQueue := 1 }] }
  detector := .default
  signatures := []
  localAddresses := []

/-- A packet without content. -/
def bare (protocol : Protocol) : Packet :=
  .new [] "lan0" ⟨some (.v4 0x0A000001), some (.v4 0x08080808), protocol, 1000, 53, 0⟩

/-- Two packets for each class, and a batch of which the second packet fails to leave. -/
def crowd : List PlaneEvent :=
  [.process (bare .udp), .process (bare .udp), .process (bare .tcp), .process (bare .tcp), .wait 5,
    .egress 2 fun number _ => number = 0, .process (bare .udp)]

/-- One packet is given up in each class, one is sent, one fails, and one waits. -/
theorem balanced_crowd :
    (crowdedSettings.toPlane 0).Fresh ∧ (run ⟨crowdedSettings.toPlane 0, 0⟩ crowd).plane.Balanced 5 ∧
      (run ⟨crowdedSettings.toPlane 0, 0⟩ crowd).plane.qos.totalQueued = 1 ∧
      (run ⟨crowdedSettings.toPlane 0, 0⟩ crowd).plane.metrics.totals =
        { Totals.zero with
          noRoute := 5, filterAccepted := 5, qosEnqueued := 4, qosDropped := 2, packetsTransmitted := 1,
          txErrors := 1 } :=
  ⟨Plane.fresh_toPlane crowdedSettings 0, balanced_run (Plane.fresh_toPlane crowdedSettings 0) 0 crowd, by decide,
    by decide⟩

end PlaneState

end Router
