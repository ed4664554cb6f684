import Router.Proofs.Plane.Queues
import Router.Proofs.Shaping.Departures
import Router.Proofs.Snapshot

/-!
# The two loops

Packets are processed by one loop and sent by another, and the loops meet at the queues alone. What the second one does
between two packets changes nothing of the gate and no class (`SameIntake.egress`), so without limits it has no say in
what becomes of packets (`SameIntake.intake_eq`). Under the name of each class, what was taken out and what still waits
are what waited at first and what was queued since, in order (`under_departed`). Main statement: two interleavings of
the same arrivals after which nothing waits queue the same packets and write the same frames, those of each class in
the order in which their packets were processed (`interleavings_agree`).
-/

namespace Router

/-! ## What the loops do -/

/-- What one of the two loops does, at a reading of the clock. -/
inductive LoopEvent
  /-- A packet is processed. -/
  | ingest (now : Nat) (p : Packet)
  /-- Up to `batch` packets are taken out and sent. -/
  | egress (now batch : Nat)

/-- The packet that an event processes, if it does, and when. -/
def LoopEvent.arrival? : LoopEvent → Option (Nat × Packet)
  | .ingest now p => some (now, p)
  | .egress _ _ => none

/-- The packets that events process, in order, each with the reading of the clock. -/
def arrivals (es : List LoopEvent) : List (Nat × Packet) :=
  es.filterMap LoopEvent.arrival?

/-- What became of a packet, and the packet as it came to the queues. -/
structure Intake where
  disposition : Disposition
  packet : Packet

/-- The packet under the name of the class that it was queued in, if it was. -/
def Intake.queued? (i : Intake) : Option (String × Packet) :=
  match i.disposition with
  | .queued name => some (name, i.packet)
  | .queueFull _ | .filtered _ | .blocked _ => none

namespace Plane

/-- What becomes of a packet that is processed. -/
def intake (pl : Plane) (now : Nat) (p : Packet) : Intake :=
  ⟨(pl.process now p).disposition, (pl.forward now p).1⟩

section Loops

variable (accepts : Frame → Bool)

/-- The router after an event; `accepts` tells which frames can be sent. -/
def loopStep (pl : Plane) : LoopEvent → Plane
  | .ingest now p => (pl.process now p).plane
  | .egress now batch => (pl.egressOnce now batch fun _ => accepts).plane

/-- The router after events. -/
def loops (pl : Plane) (es : List LoopEvent) : Plane :=
  es.foldl (loopStep accepts) pl

/-- What becomes of the packet of an event, if it has one. -/
def intake? (pl : Plane) : LoopEvent → Option Intake
  | .ingest now p => some (pl.intake now p)
  | .egress _ _ => none

/-- What becomes of the packets of events, in order. -/
def intakes (pl : Plane) : List LoopEvent → List Intake
  | [] => []
  | e :: rest => (pl.intake? e).toList ++ (pl.loopStep accepts e).intakes rest

/-- The packets that an event takes out, under the names of their classes. -/
def leaving (pl : Plane) : LoopEvent → List (String × Packet)
  | .ingest _ _ => []
  | .egress now batch => pl.qos.departures now batch

/-- The packets that events take out, under the names of their classes. -/
def departed (pl : Plane) : List LoopEvent → List (String × Packet)
  | [] => []
  | e :: rest => pl.leaving e ++ (pl.loopStep accepts e).departed rest

/-- The frames that an event sends. -/
def sent (pl : Plane) : LoopEvent → List Frame
  | .ingest _ _ => []
  | .egress now batch => (pl.egressOnce now batch fun _ => accepts).written

/-- The frames that events send, in order. -/
def written (pl : Plane) : List LoopEvent → List Frame
  | [] => []
  | e :: rest => pl.sent accepts e ++ (pl.loopStep accepts e).written rest

/-- The dispositions of the packets that events process, in order. -/
def dispositions (pl : Plane) (es : List LoopEvent) : List Disposition :=
  (pl.intakes accepts es).map Intake.disposition

/-- The packets that events queue, in order, under the names of their classes. -/
def queued (pl : Plane) (es : List LoopEvent) : List (String × Packet) :=
  (pl.intakes accepts es).filterMap Intake.queued?

/-- The frames that events send, in order, under the names of the classes of their packets. -/
def writtenBy (pl : Plane) (es : List LoopEvent) : List (String × Frame) :=
  ((pl.departed accepts es).map fun e => (e.1, e.2.frame)).filter fun e => accepts e.2

/-- After events no packet waits. -/
def Drained (pl : Plane) (es : List LoopEvent) : Prop :=
  (pl.loops accepts es).qos.totalQueued = 0

end Loops

variable {accepts : Frame → Bool} {pl : Plane}

/-! ## What is written -/

theorem send_fst (accepts : Frame → Bool) (m : Metrics) (number : Nat) (packets : List Packet) :
    (send m (fun _ => accepts) number packets).1 = (packets.map Packet.frame).filter accepts := by
  induction packets generalizing m number with
  | nil => rfl
  | cons p rest ih =>
    rw [send, List.map_cons]
    split
    · rename_i haccepts
      rw [List.filter_cons_of_pos haccepts]
      exact congrArg (p.frame :: ·) (ih _ _)
    · rename_i hrefuses
      rw [List.filter_cons_of_neg hrefuses]
      exact ih _ _

theorem sent_eq (accepts : Frame → Bool) (pl : Plane) (e : LoopEvent) :
    pl.sent accepts e = ((pl.leaving e).map fun e => e.2.frame).filter accepts := by
  cases e with
  | ingest now p => rfl
  | egress now batch =>
    have hsend := send_fst accepts pl.metrics 0 (pl.qos.dequeueBatch now batch).1
    rw [leaving, sent]
    refine hsend.trans ?_
    rw [← Scheduler.map_snd_departures, List.map_map]
    rfl

/-- Under the names of the classes stand the frames that are written. -/
theorem map_snd_writtenBy (accepts : Frame → Bool) (pl : Plane) (es : List LoopEvent) :
    (pl.writtenBy accepts es).map Prod.snd = pl.written accepts es := by
  have hfilter : ∀ log : List (String × Frame),
      (log.filter fun e => accepts e.2).map Prod.snd = (log.map Prod.snd).filter accepts := by
    intro log
    rw [List.filter_map]
    rfl
  rw [writtenBy, hfilter, List.map_map]
  induction es generalizing pl with
  | nil => rfl
  | cons e rest ih =>
    rw [departed, written, List.map_append, List.filter_append, sent_eq, ← ih]
    rfl

theorem under_writtenBy (accepts : Frame → Bool) (pl : Plane) (es : List LoopEvent) (name : String) :
    under name (pl.writtenBy accepts es) = ((under name (pl.departed accepts es)).map Packet.frame).filter accepts := by
  rw [writtenBy]
  induction pl.departed accepts es with
  | nil => rfl
  | cons e rest ih =>
    rw [List.map_cons, List.filter_cons, under_cons, List.map_append, List.filter_append, ← ih]
    by_cases haccepts : accepts e.2.frame <;> by_cases hname : e.1 = name <;> simp [haccepts, hname, under_cons]

/-! ## One event -/

/-- The classes of a router are named, and none has a limit. -/
structure Unlimited (pl : Plane) : Prop where
  named : pl.qos.Named
  unlimited : pl.qos.Unlimited

theorem Reachable.unlimited (h : pl.Reachable) (hfree : ∀ c ∈ pl.qos.classes, c.rateKbps = 0 ∧ c.maxQueue = 0) :
    pl.Unlimited :=
  ⟨h.orderly.named, Scheduler.unlimited_of_classes h.queues.metered hfree⟩

/-- A packet that is not refused at the gate is queued in its class. -/
theorem intake_of_offered (h : pl.Unlimited) {now : Nat} {p : Packet} (hrefusal : pl.refusal? now p = none) :
    pl.intake now p =
      ⟨.queued (pl.qos.enqueue (pl.forward now p).1).1.className, (pl.forward now p).1⟩ := by
  have haccepted := Scheduler.enqueue_of_unlimited h.unlimited (pl.forward now p).1
  rw [intake, disposition_process, hrefusal, Option.getD_none, haccepted]
  rfl

theorem not_queued_of_refusal? {now : Nat} {p : Packet} {d : Disposition} (hrefusal : pl.refusal? now p = some d) :
    (pl.intake now p).queued? = none := by
  have hd : (pl.intake now p).disposition = d := by
    rw [intake]
    dsimp only
    rw [disposition_process, hrefusal, Option.getD_some]
  unfold refusal? at hrefusal
  dsimp only at hrefusal
  rw [Intake.queued?, hd]
  split at hrefusal
  · cases hrefusal
    rfl
  · split at hrefusal
    · cases hrefusal
      rfl
    · cases hrefusal

theorem classes_loopStep (accepts : Frame → Bool) (pl : Plane) (e : LoopEvent) :
    (pl.loopStep accepts e).qos.classes = pl.qos.classes := by
  cases e with
  | ingest now p =>
    obtain ⟨_, -, hsettled⟩ := pl.settled_process now p
    exact hsettled.classes
  | egress now batch => exact pl.classes_egressOnce now batch _

theorem Unlimited.loopStep (h : pl.Unlimited) (accepts : Frame → Bool) (e : LoopEvent) :
    (pl.loopStep accepts e).Unlimited := by
  refine ⟨h.named.of_classes (pl.classes_loopStep accepts e), ?_⟩
  cases e with
  | ingest now p =>
    rw [Plane.loopStep, qos_process]
    split
    · exact h.unlimited
    · exact h.unlimited.enqueue _
  | egress now batch => exact h.unlimited.dequeueBatch now batch

theorem Unlimited.loops (h : pl.Unlimited) (accepts : Frame → Bool) (es : List LoopEvent) :
    (pl.loops accepts es).Unlimited := by
  induction es generalizing pl with
  | nil => exact h
  | cons e rest ih => exact ih (h.loopStep accepts e)

/-- What an event takes out of a class and leaves in it is what waited there and what it queues there. -/
theorem under_leaving (h : pl.Unlimited) (accepts : Frame → Bool) (e : LoopEvent) (name : String) :
    under name (pl.leaving e) ++ Scheduler.held (pl.loopStep accepts e).qos.queues name =
      Scheduler.held pl.qos.queues name ++ under name ((pl.intake? e).toList.filterMap Intake.queued?) := by
  cases e with
  | ingest now p =>
    rw [leaving, loopStep, intake?, qos_process]
    cases hrefusal : pl.refusal? now p with
    | some d =>
      have hnone := not_queued_of_refusal? hrefusal
      simp [hnone]
    | none =>
      have hheld := Scheduler.held_enqueue h.named h.unlimited (pl.forward now p).1 name
      simp [intake_of_offered h hrefusal, Intake.queued?, hheld, under_cons]
  | egress now batch =>
    have hnone : under name ((pl.intake? (.egress now batch)).toList.filterMap Intake.queued?) = [] := rfl
    rw [hnone, List.append_nil]
    exact Scheduler.held_departures h.named now batch name

/-! ## All events -/

theorem under_departed (h : pl.Unlimited) (accepts : Frame → Bool) (es : List LoopEvent) (name : String) :
    under name (pl.departed accepts es) ++ Scheduler.held (pl.loops accepts es).qos.queues name =
      Scheduler.held pl.qos.queues name ++ under name (pl.queued accepts es) := by
  induction es generalizing pl with
  | nil => simp [departed, loops, queued, intakes]
  | cons e rest ih =>
    have hstep := under_leaving h accepts e name
    have hrest := ih (h.loopStep accepts e)
    calc
      under name (pl.departed accepts (e :: rest)) ++ Scheduler.held (pl.loops accepts (e :: rest)).qos.queues name =
          under name (pl.leaving e) ++ (under name ((pl.loopStep accepts e).departed accepts rest) ++
            Scheduler.held ((pl.loopStep accepts e).loops accepts rest).qos.queues name) := by
        rw [departed, under_append, List.append_assoc]
        rfl
      _ = under name (pl.leaving e) ++ (Scheduler.held (pl.loopStep accepts e).qos.queues name ++
            under name ((pl.loopStep accepts e).queued accepts rest)) := by rw [hrest]
      _ = Scheduler.held pl.qos.queues name ++ under name (pl.queued accepts (e :: rest)) := by
        rw [← List.append_assoc, hstep, List.append_assoc, ← under_append, queued, queued, intakes,
          List.filterMap_append]

/-- Two routers that have in common what has a say in what becomes of packets, and no limits. -/
structure SameIntake (a b : Plane) : Prop where
  gate : SameGate a b
  classes : a.qos.classes = b.qos.classes
  left : a.Unlimited
  right : b.Unlimited

section SameIntake

variable {a b : Plane}

theorem SameIntake.intake_eq (h : SameIntake a b) (now : Nat) (p : Packet) : a.intake now p = b.intake now p := by
  have hforward := h.gate.forward_fst_eq now p
  have hrefusal := h.gate.refusal?_eq now p
  cases hb : b.refusal? now p with
  | some d => rw [intake, intake, disposition_process, disposition_process, hrefusal, hforward, hb]; rfl
  | none =>
    have hclass : ∀ q, a.qos.classFor? q = b.qos.classFor? q := fun q => by
      rw [Scheduler.classFor?, Scheduler.classFor?, h.classes]
    rw [intake_of_offered h.left (hrefusal.trans hb), intake_of_offered h.right hb, hforward,
      Scheduler.className_enqueue h.left.named, Scheduler.className_enqueue h.right.named, hclass]

/-- A packet that both routers process. -/
theorem SameIntake.ingest (h : SameIntake a b) (now : Nat) (p : Packet) :
    SameIntake (a.loopStep accepts (.ingest now p)) (b.loopStep accepts (.ingest now p)) :=
  ⟨h.gate.process now p,
    (a.classes_loopStep accepts _).trans (h.classes.trans (b.classes_loopStep accepts _).symm),
    h.left.loopStep accepts _, h.right.loopStep accepts _⟩

/-- A batch that only one of them sends. -/
theorem SameIntake.egress (h : SameIntake a b) (now batch : Nat) :
    SameIntake (a.loopStep accepts (.egress now batch)) b :=
  ⟨(sameGate_egressOnce a now batch _).trans h.gate, (a.classes_loopStep accepts _).trans h.classes,
    h.left.loopStep accepts _, h.right⟩

/-- Arrivals without a batch among them. -/
def ingested (as : List (Nat × Packet)) : List LoopEvent :=
  as.map fun a => .ingest a.1 a.2

theorem SameIntake.intakes_eq (h : SameIntake a b) (es : List LoopEvent) :
    a.intakes accepts es = b.intakes accepts (ingested (arrivals es)) := by
  induction es generalizing a b with
  | nil => rfl
  | cons e rest ih =>
    cases e with
    | ingest now p =>
      have harrivals : arrivals (.ingest now p :: rest) = (now, p) :: arrivals rest := rfl
      rw [harrivals, ingested, List.map_cons, intakes, intakes, intake?, intake?, h.intake_eq,
        ih (h.ingest now p)]
      rfl
    | egress now batch => exact ih (h.egress now batch)

end SameIntake

theorem intakes_congr (h : pl.Unlimited) (accepts : Frame → Bool) {es fs : List LoopEvent}
    (hsame : arrivals es = arrivals fs) :
    pl.intakes accepts es = pl.intakes accepts fs := by
  have hself : SameIntake pl pl := ⟨SameGate.refl pl, rfl, h, h⟩
  rw [hself.intakes_eq es, hself.intakes_eq fs, hsame]

/-! ## Until nothing waits -/

theorem held_of_drained {es : List LoopEvent} (h : Drained accepts pl es) (name : String) :
    Scheduler.held (pl.loops accepts es).qos.queues name = [] := by
  have hnone := (Scheduler.totalQueued_eq_zero_iff _).1 h
  rw [Scheduler.held]
  cases hfind : (pl.loops accepts es).qos.queues.find? (·.definition.name = name) with
  | none => rfl
  | some q => exact List.flatMap_eq_nil_iff.1 hnone q (List.mem_of_find?_eq_some hfind)

theorem totalQueued_rounds (h : pl.Unlimited) (accepts : Frame → Bool) (now batch rounds : Nat) :
    (pl.loops accepts (List.replicate rounds (.egress now batch))).qos.totalQueued =
      pl.qos.totalQueued - rounds * batch := by
  induction rounds generalizing pl with
  | zero => simp [loops]
  | succ rounds ih =>
    have hfirst : (pl.loopStep accepts (.egress now batch)).qos.totalQueued = pl.qos.totalQueued - batch :=
      Scheduler.totalQueued_dequeueBatch h.unlimited now batch
    have hrest := ih (h.loopStep accepts (.egress now batch))
    rw [List.replicate_succ, loops, List.foldl_cons]
    rw [loops, hfirst] at hrest
    rw [hrest, Nat.sub_sub, Nat.succ_mul, Nat.add_comm]

theorem loops_append (accepts : Frame → Bool) (pl : Plane) (es fs : List LoopEvent) :
    pl.loops accepts (es ++ fs) = (pl.loops accepts es).loops accepts fs :=
  List.foldl_append

/-- As many batches as packets wait are enough. -/
theorem drained_rounds (h : pl.Unlimited) (es : List LoopEvent) {now batch rounds : Nat} (hbatch : 0 < batch)
    (hrounds : (pl.loops accepts es).qos.totalQueued ≤ rounds) :
    Drained accepts pl (es ++ List.replicate rounds (.egress now batch)) := by
  have htotal := totalQueued_rounds (h.loops accepts es) accepts now batch rounds
  have hmany : rounds ≤ rounds * batch := Nat.le_mul_of_pos_right rounds hbatch
  rw [Drained, loops_append, htotal]
  exact Nat.sub_eq_zero_of_le (hrounds.trans hmany)

theorem under_writtenBy_of_drained (h : pl.Unlimited) {es : List LoopEvent} (hdrained : Drained accepts pl es)
    (name : String) :
    under name (pl.writtenBy accepts es) =
      ((Scheduler.held pl.qos.queues name ++ under name (pl.queued accepts es)).map Packet.frame).filter accepts := by
  have hall := under_departed h accepts es name
  rw [held_of_drained hdrained, List.append_nil] at hall
  rw [under_writtenBy, hall]

/-- In a router whose classes have no limits, two interleavings of the same arrivals with batches of any size, each
followed by batches until nothing waits, which it does after as many as packets wait: all packets end alike in both,
the same frames are written, each as often, and those of each class in the same order, behind those that waited at first
in the order in which they were processed. -/
theorem interleavings_agree (h : pl.Reachable) (hfree : ∀ c ∈ pl.qos.classes, c.rateKbps = 0 ∧ c.maxQueue = 0)
    (accepts : Frame → Bool) :
    (∀ es now batch rounds, 0 < batch → (pl.loops accepts es).qos.totalQueued ≤ rounds →
      Drained accepts pl (es ++ List.replicate rounds (.egress now batch))) ∧
    (∀ es, (pl.writtenBy accepts es).map Prod.snd = pl.written accepts es) ∧
    ∀ es fs, arrivals es = arrivals fs → Drained accepts pl es → Drained accepts pl fs →
      pl.dispositions accepts es = pl.dispositions accepts fs ∧
      (pl.written accepts es).Perm (pl.written accepts fs) ∧
      ∀ name, under name (pl.writtenBy accepts es) = under name (pl.writtenBy accepts fs) ∧
        under name (pl.writtenBy accepts es) =
          ((Scheduler.held pl.qos.queues name ++ under name (pl.queued accepts es)).map Packet.frame).filter
            accepts := by
  have hunlimited := h.unlimited hfree
  refine ⟨fun es now batch rounds => drained_rounds hunlimited es, map_snd_writtenBy accepts pl, ?_⟩
  intro es fs hsame hes hfs
  have hintakes := intakes_congr hunlimited accepts hsame
  have hunder : ∀ name, under name (pl.writtenBy accepts es) = under name (pl.writtenBy accepts fs) := by
    intro name
    rw [under_writtenBy_of_drained hunlimited hes, under_writtenBy_of_drained hunlimited hfs, queued, queued, hintakes]
  refine ⟨by rw [dispositions, dispositions, hintakes], ?_, fun name => ⟨hunder name, ?_⟩⟩
  · rw [← map_snd_writtenBy, ← map_snd_writtenBy]
    exact (perm_of_under_eq hunder).map Prod.snd
  · exact under_writtenBy_of_drained hunlimited hes name

/-! ## Calls among other traffic -/

/-- Calls leave before anything else. -/
def twoClasses : List Operation :=
  [.firewall (.setDefault .forward .accept), .qos (.add (.plain "bulk" 5)),
    .qos (.add { TrafficClass.plain "voice" 9 with protocol := some .udp })]

/-- A packet known by its one octet. -/
def numbered (protocol : Protocol) (octet : UInt8) : Packet :=
  { PlaneState.bare protocol with data := [octet] }

/-- Each packet is sent as soon as it was processed. -/
def eager : List LoopEvent :=
  [.ingest 1 (numbered .tcp 1), .egress 1 4, .ingest 2 (numbered .udp 2), .egress 2 4, .ingest 3 (numbered .udp 3),
    .egress 3 4]

/-- All packets are processed before the first is sent, one in each batch. -/
def patient : List LoopEvent :=
  [.ingest 1 (numbered .tcp 1), .ingest 2 (numbered .udp 2), .ingest 3 (numbered .udp 3), .egress 9 1, .egress 9 1,
    .egress 9 1]

/-- The calls come in front of the other packet if all wait for a while, but not in another order among themselves. -/
theorem interleavings_agree_calls :
    ∃ pl : Plane, pl.Reachable ∧ (∀ c ∈ pl.qos.classes, c.rateKbps = 0 ∧ c.maxQueue = 0) ∧
      arrivals eager = arrivals patient ∧
      (pl.written (fun _ => true) eager).map Frame.data = [[1], [2], [3]] ∧
      (pl.written (fun _ => true) patient).map Frame.data = [[2], [3], [1]] ∧
      (pl.written (fun _ => true) eager).Perm (pl.written (fun _ => true) patient) ∧
      under "voice" (pl.writtenBy (fun _ => true) eager) = under "voice" (pl.writtenBy (fun _ => true) patient) := by
  have hreachable : ((PlaneState.start .default [] 0).operateAll twoClasses).plane.Reachable :=
    ⟨.default, [], 0, twoClasses, rfl⟩
  have hfree : ∀ c ∈ ((PlaneState.start .default [] 0).operateAll twoClasses).plane.qos.classes,
      c.rateKbps = 0 ∧ c.maxQueue = 0 := by decide
  have hsame : arrivals eager = arrivals patient := by decide
  obtain ⟨-, hperm, hunder⟩ := (interleavings_agree hreachable hfree fun _ => true).2.2 eager patient hsame
    (by unfold Drained; decide) (by unfold Drained; decide)
  exact ⟨_, hreachable, hfree, hsame, by decide, by decide, hperm, (hunder "voice").1⟩

end Plane

end Router
