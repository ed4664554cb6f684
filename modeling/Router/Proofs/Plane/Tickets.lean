import Router.Config.Settings
import Router.Proofs.Plane.Stages

/-!
# Where each packet is

A router is fed by a capture that gives a ticket to each packet it hands out. Packets are read and processed, sent
elsewhere or back, and given up with their class (`Feed.run`). No event loses or doubles a ticket: those handed in and
those of the packets that wait are all that were handed out, each once (`Feed.kept_step`, `Feed.kept_run`). Main
statement: each packet that was handed out waits in exactly one queue or was handed in exactly once (`Feed.placed_run`).
-/

namespace Router

/-! ## Tickets -/

@[simp] theorem tickets_append (packets packets' : List Packet) :
    tickets (packets ++ packets') = tickets packets ++ tickets packets' :=
  List.filterMap_append

theorem tickets_cons_of_some {p : Packet} {ticket : Nat} (h : p.ticket = some ticket) (rest : List Packet) :
    tickets (p :: rest) = ticket :: tickets rest :=
  List.filterMap_cons_some h

theorem length_tickets {packets : List Packet} (h : ∀ p ∈ packets, p.ticket ≠ none) :
    (tickets packets).length = packets.length := by
  induction packets with
  | nil => rfl
  | cons p rest ih =>
    obtain ⟨ticket, hticket⟩ := Option.ne_none_iff_exists'.1 (h p List.mem_cons_self)
    rw [tickets_cons_of_some hticket, List.length_cons, List.length_cons]
    rw [ih fun q hq => h q (List.mem_cons_of_mem p hq)]

theorem tickets_waiting (s : Scheduler) : tickets s.waiting = s.queues.flatMap fun q => tickets q.packets :=
  List.filterMap_flatMap

/-- What is in some of several lists once is in one of them once. -/
theorem exists_of_count_flatMap {α : Type} {f : α → List Nat} {xs : List α} {n : Nat}
    (h : (xs.flatMap f).count n = 1) :
    ∃ before x after, xs = before ++ x :: after ∧ (f x).count n = 1 ∧ ∀ y ∈ before ++ after, n ∉ f y := by
  induction xs with
  | nil => cases h
  | cons x rest ih =>
    rw [List.flatMap_cons, List.count_append] at h
    by_cases hx : (f x).count n = 0
    · rw [hx, Nat.zero_add] at h
      obtain ⟨before, y, after, rfl, hy, hother⟩ := ih h
      refine ⟨x :: before, y, after, rfl, hy, ?_⟩
      rw [List.cons_append]
      exact List.forall_mem_cons.2 ⟨List.count_eq_zero.1 hx, hother⟩
    · refine ⟨[], x, rest, rfl, by omega, ?_⟩
      have hrest : n ∉ rest.flatMap f := List.count_eq_zero.1 (by omega)
      exact fun y hy hn => hrest (List.mem_flatMap.2 ⟨y, hy, hn⟩)

namespace Capture

variable {c c' : Capture} {p : Packet}

/-- A packet that is read has the next ticket. -/
theorem read_cases (c : Capture) :
    (∃ p c', c.read = (.ok p, c') ∧ p.ticket = some c.handedOut ∧ c'.handedOut = c.handedOut + 1 ∧
        c'.released = c.released) ∨
      ∃ e c', c.read = (.error e, c') ∧ c'.handedOut = c.handedOut ∧ c'.released = c.released := by
  unfold read
  split
  · exact .inr ⟨_, _, rfl, rfl, rfl⟩
  · rename_i arrival pending _
    cases hr : arrival.read c.ingress c.handedOut with
    | error e => exact .inr ⟨e, _, rfl, rfl, rfl⟩
    | ok p =>
      refine .inl ⟨p, _, rfl, ?_, rfl, rfl⟩
      cases arrival with
      | fault e => cases hr
      | datagram data =>
        cases hread : Packet.read data c.ingress <;> simp only [Arrival.read, hread, Except.map] at hr <;> cases hr
        rfl

/-- Packets that are sent to a capture are handed in. -/
theorem foldl_write (c : Capture) (packets : List Packet) :
    packets.foldl write c = { c with written := c.written ++ packets.map Packet.frame }.release packets := by
  induction packets generalizing c with
  | nil => simp [release, tickets]
  | cons p rest ih =>
    rw [List.foldl_cons, ih]
    have htickets : tickets (p :: rest) = tickets [p] ++ tickets rest := tickets_append [p] rest
    simp [write, release, htickets]

end Capture

/-! ## A router and its source -/

/-- A router with the source that feeds it, at a time. -/
structure Feed where
  plane : Plane
  source : Capture
  now : Nat

/-- What happens to a router and its source. -/
inductive FeedEvent
  /-- The next datagram is read, and its packet processed if it has one. -/
  | receive
  /-- Up to `batch` packets are sent elsewhere; `sends` tells by number and frame whether sending succeeds. -/
  | egress (batch : Nat) (sends : Nat → Frame → Bool)
  /-- Up to `batch` packets are sent back to the source. -/
  | sendBack (batch : Nat)
  | add (c : TrafficClass)
  | remove (name : String)
  | update (c : TrafficClass)
  | replace (classes : List TrafficClass)
  /-- Time goes by, in nanoseconds. -/
  | wait (duration : Nat)

namespace Feed

variable {s s' : Feed}

/-- The state with other queues. -/
def withQueues (s : Feed) (qos : Scheduler) : Feed :=
  { s with plane := { s.plane with qos } }

/-- The state after packets were done with. -/
def release (s : Feed) (packets : List Packet) : Feed :=
  { s with source := s.source.release packets }

/-- The state after an event. What is given up or sent is handed in. -/
def step (s : Feed) : FeedEvent → Feed
  | .receive =>
    match s.source.read with
    | (.ok p, source) =>
      let r := s.plane.process s.now p
      { s with plane := r.plane, source }.release r.discarded.toList
    | (.error _, source) => { s with source }
  | .egress batch sends =>
    let out := s.plane.egressOnce s.now batch sends
    { s with plane := out.plane }.release out.taken
  | .sendBack batch =>
    let out := s.plane.egressOnce s.now batch fun _ _ => true
    { s with plane := out.plane, source := out.taken.foldl Capture.write s.source }
  | .add c => s.withQueues ((s.plane.qos.add s.now c).toOption.getD s.plane.qos)
  | .remove name =>
    match s.plane.qos.remove? name with
    | some (qos, gone) => (s.withQueues qos).release gone
    | none => s
  | .update c => s.withQueues ((s.plane.qos.update? s.now c).getD s.plane.qos)
  | .replace classes =>
    let (qos, gone) := s.plane.qos.replace s.now classes
    (s.withQueues qos).release gone
  | .wait duration => { s with now := s.now + duration }

/-- The state after events. -/
def run (s : Feed) (events : List FeedEvent) : Feed :=
  events.foldl step s

/-! ## What every event keeps -/

/-- The tickets of the packets that wait and those handed in are all that were handed out. -/
structure Kept (s : Feed) : Prop where
  named : s.plane.qos.Named
  ticketed : ∀ p ∈ s.plane.qos.waiting, p.ticket ≠ none
  accounted : (tickets s.plane.qos.waiting ++ s.source.released).Perm (List.range s.source.handedOut)

/-- Packets that come bring the tickets handed out for them, and packets that go leave theirs. -/
theorem Kept.carry (h : s.Kept) (came gone : List Packet) (hnamed : s'.plane.qos.Named)
    (hwaiting : (gone ++ s'.plane.qos.waiting).Perm (came ++ s.plane.qos.waiting))
    (hcame : ∀ p ∈ came, p.ticket ≠ none)
    (hout : List.range s'.source.handedOut = List.range s.source.handedOut ++ tickets came)
    (hin : s'.source.released = s.source.released ++ tickets gone) : s'.Kept := by
  refine ⟨hnamed, ?_, ?_⟩
  · intro p hp
    rcases List.mem_append.1 (hwaiting.mem_iff.1 (List.mem_append_right gone hp)) with hp | hp
    · exact hcame p hp
    · exact h.ticketed p hp
  · have htickets : (tickets gone ++ tickets s'.plane.qos.waiting).Perm
        (tickets came ++ tickets s.plane.qos.waiting) := by
      rw [← tickets_append, ← tickets_append]
      exact hwaiting.filterMap Packet.ticket
    rw [hout, hin]
    calc
      (tickets s'.plane.qos.waiting ++ (s.source.released ++ tickets gone)).Perm
          ((tickets gone ++ tickets s'.plane.qos.waiting) ++ s.source.released) := by
        refine .trans ?_ (List.perm_append_comm.append_right _)
        rw [List.append_assoc]
        exact List.perm_append_comm.append_left _
      List.Perm _ ((tickets came ++ tickets s.plane.qos.waiting) ++ s.source.released) :=
        htickets.append_right _
      List.Perm _ (tickets came ++ List.range s.source.handedOut) := by
        rw [List.append_assoc]
        exact h.accounted.append_left _
      List.Perm _ (List.range s.source.handedOut ++ tickets came) := List.perm_append_comm

/-- Packets that only go. -/
theorem Kept.of_gone (h : s.Kept) (gone : List Packet) (hnamed : s'.plane.qos.Named)
    (hwaiting : (gone ++ s'.plane.qos.waiting).Perm s.plane.qos.waiting)
    (hout : s'.source.handedOut = s.source.handedOut)
    (hin : s'.source.released = s.source.released ++ tickets gone) : s'.Kept :=
  h.carry [] gone hnamed hwaiting (by simp) (by simp [hout, tickets]) hin

/-- Queues that hold the same packets. -/
theorem Kept.withQueues (h : s.Kept) {qos : Scheduler} (hnamed : qos.Named)
    (hwaiting : qos.waiting.Perm s.plane.qos.waiting) : (s.withQueues qos).Kept :=
  h.of_gone [] hnamed hwaiting rfl (List.append_nil _).symm

theorem kept_step (h : s.Kept) (e : FeedEvent) : (s.step e).Kept := by
  cases e with
  | receive =>
    obtain ⟨p, source, hread, hticket, hout, hin⟩ | ⟨e, source, hread, hout, hin⟩ := s.source.read_cases
    · obtain ⟨counted, -, hsettled⟩ := s.plane.settled_process s.now p
      have hforwarded := (s.plane.ticket_forward s.now p).trans hticket
      rw [step, hread]
      refine h.carry [(s.plane.forward s.now p).1] _ (h.named.of_classes hsettled.classes) hsettled.waiting ?_ ?_ ?_
      · simp [hforwarded]
      · rw [tickets_cons_of_some hforwarded]
        exact (congrArg List.range hout).trans List.range_succ
      · exact congrArg (· ++ _) hin
    · rw [step, hread]
      exact h.of_gone [] h.named (.refl _) hout (hin.trans (List.append_nil _).symm)
  | egress batch sends =>
    exact h.of_gone _ (h.named.of_classes (s.plane.classes_egressOnce s.now batch sends))
      (s.plane.waiting_egressOnce s.now batch sends) rfl rfl
  | sendBack batch =>
    rw [step, Capture.foldl_write]
    exact h.of_gone _ (h.named.of_classes (s.plane.classes_egressOnce s.now batch _))
      (s.plane.waiting_egressOnce s.now batch _) rfl rfl
  | add c =>
    cases ha : s.plane.qos.add s.now c with
    | error e =>
      rw [step, ha]
      exact h.withQueues h.named (.refl _)
    | ok qos =>
      rw [step, ha]
      exact h.withQueues (h.named.add ha) (Scheduler.waiting_add ha)
  | remove name =>
    rw [step]
    split
    · rename_i qos gone hr
      exact h.of_gone _ (h.named.remove? hr) (Scheduler.waiting_remove? hr) rfl rfl
    · exact h
  | update c =>
    cases hu : s.plane.qos.update? s.now c with
    | none =>
      rw [step, hu]
      exact h.withQueues h.named (.refl _)
    | some qos =>
      rw [step, hu]
      exact h.withQueues (h.named.update? hu) (Scheduler.waiting_update? hu)
  | replace classes =>
    exact h.of_gone _ (h.named.replace s.now classes) (Scheduler.waiting_replace h.named s.now classes) rfl rfl
  | wait duration => exact ⟨h.named, h.ticketed, h.accounted⟩

theorem kept_run (h : s.Kept) (events : List FeedEvent) : (s.run events).Kept := by
  induction events generalizing s with
  | nil => exact h
  | cons e rest ih => exact ih (kept_step h e)

/-! ## One place for each packet -/

/-- A ticket was not handed in, and one packet has it, which waits in one queue. -/
def Waits (s : Feed) (ticket : Nat) : Prop :=
  ticket ∉ s.source.released ∧
    ∃ before q after, s.plane.qos.queues = before ++ q :: after ∧ (tickets q.packets).count ticket = 1 ∧
      ∀ r ∈ before ++ after, ticket ∉ tickets r.packets

/-- A ticket was handed in once, and no packet that waits has it. -/
def Returned (s : Feed) (ticket : Nat) : Prop :=
  s.source.released.count ticket = 1 ∧ ∀ q ∈ s.plane.qos.queues, ticket ∉ tickets q.packets

theorem Kept.handedOut_eq (h : s.Kept) :
    s.source.handedOut = s.source.released.length + s.plane.qos.totalQueued := by
  have hlength := h.accounted.length_eq
  rw [List.length_append, length_tickets h.ticketed, List.length_range] at hlength
  rw [Scheduler.totalQueued_eq, Nat.add_comm]
  exact hlength.symm

theorem Kept.placed (h : s.Kept) {ticket : Nat} (ht : ticket < s.source.handedOut) :
    s.Waits ticket ∨ s.Returned ticket := by
  have hcount := h.accounted.count_eq ticket
  rw [List.count_append, List.count_range, if_pos ht, tickets_waiting] at hcount
  by_cases hr : s.source.released.count ticket = 0
  · rw [hr] at hcount
    exact .inl ⟨List.count_eq_zero.1 hr, exists_of_count_flatMap hcount⟩
  · refine .inr ⟨by omega, fun q hq hm => ?_⟩
    have hnone : (s.plane.qos.queues.flatMap fun q => tickets q.packets).count ticket = 0 := by omega
    exact List.count_eq_zero.1 hnone (List.mem_flatMap.2 ⟨q, hq, hm⟩)

theorem Kept.ticket_lt (h : s.Kept) {p : Packet} (hp : p ∈ s.plane.qos.waiting) :
    ∃ ticket, p.ticket = some ticket ∧ ticket < s.source.handedOut := by
  obtain ⟨ticket, hticket⟩ := Option.ne_none_iff_exists'.1 (h.ticketed p hp)
  have hmem : ticket ∈ tickets s.plane.qos.waiting := List.mem_filterMap.2 ⟨p, hp, hticket⟩
  exact ⟨ticket, hticket, List.mem_range.1 (h.accounted.mem_iff.1 (List.mem_append_left _ hmem))⟩

/-- A router in which no packet waits, and a source of datagrams. -/
theorem kept_start {pl : Plane} (hreach : pl.qos.Reachable) (hempty : pl.qos.totalQueued = 0) (ingress : String)
    (datagrams : List Datagram) (now : Nat) : Kept ⟨pl, .ofDatagrams ingress datagrams, now⟩ := by
  have hnone := (pl.qos.totalQueued_eq_zero_iff).1 hempty
  refine ⟨hreach.named, ?_, ?_⟩ <;> dsimp only <;> rw [hnone]
  · simp
  · exact .refl _

/-- In every state each packet that the source handed out waits in exactly one queue and was not handed in, or was
handed in exactly once and waits in none. So those handed out are as many as those handed in and those that wait,
and each that waits was handed out. -/
theorem placed_run {pl : Plane} (hreach : pl.qos.Reachable) (hempty : pl.qos.totalQueued = 0) (ingress : String)
    (datagrams : List Datagram) (now : Nat) (events : List FeedEvent) :
    let s := run ⟨pl, .ofDatagrams ingress datagrams, now⟩ events
    (∀ ticket, ticket < s.source.handedOut → s.Waits ticket ∨ s.Returned ticket) ∧
      s.source.handedOut = s.source.released.length + s.plane.qos.totalQueued ∧
      ∀ p ∈ s.plane.qos.waiting, ∃ ticket, p.ticket = some ticket ∧ ticket < s.source.handedOut := by
  have h := kept_run (kept_start hreach hempty ingress datagrams now) events
  exact ⟨fun _ ht => h.placed ht, h.handedOut_eq, fun _ hp => h.ticket_lt hp⟩

/-! ## Every way out -/

/-- Lets everything through; of the class for UDP one packet can wait, and the newest stays. -/
def voiceSettings : Settings where
  snapshot := { Snapshot.empty with
    firewallDefaults := [⟨.forward, .accept⟩]
    qosClasses := [
      { TrafficClass.plain "voice" 10 with protocol := some .udp, maxQueue := 1, dropPolicy := .head }] }
  detector := .default
  signatures := []
  localAddresses := []

/-- A datagram with ports and no more. -/
def shortDatagram (protocol : UInt8) : Datagram :=
  [0x45, 0, 0, 24, 0, 0, 0, 0, 64, protocol, 0, 0, 10, 0, 0, 1, 8, 8, 8, 8, 3, 232, 0, 53]

/-- Datagrams of which the third cannot be read. -/
def voiceDatagrams : List Datagram :=
  [shortDatagram 17, shortDatagram 17, [0x45], shortDatagram 6, shortDatagram 17]

/-- A router under these settings, and a source of these datagrams. -/
def voiceFeed : Feed :=
  ⟨voiceSettings.toPlane 0, .ofDatagrams "lan0" voiceDatagrams, 0⟩

/-- Four datagrams, the end of the class for UDP, a batch, and a last datagram. -/
def voiceEvents : List FeedEvent :=
  [.receive, .receive, .receive, .receive, .remove "voice", .egress 1 fun _ _ => true, .wait 5, .receive]

/-- The first packet makes room for the second, which goes with its class; the third is sent, and the fourth waits. -/
theorem placed_voice :
    voiceFeed.plane.qos.Reachable ∧ voiceFeed.plane.qos.totalQueued = 0 ∧
      (voiceFeed.run voiceEvents).source.handedOut = 4 ∧ (voiceFeed.run voiceEvents).source.released = [0, 1, 2] ∧
      ∀ ticket, ticket < 4 →
        (voiceFeed.run voiceEvents).Waits ticket ∨ (voiceFeed.run voiceEvents).Returned ticket := by
  have hreach : voiceFeed.plane.qos.Reachable := ⟨0, [.replace voiceSettings.snapshot.qosClasses], rfl⟩
  have hempty : voiceFeed.plane.qos.totalQueued = 0 := rfl
  have hout : (voiceFeed.run voiceEvents).source.handedOut = 4 := by decide
  have hin : (voiceFeed.run voiceEvents).source.released = [0, 1, 2] := by decide
  obtain ⟨hplaced, -, -⟩ := placed_run hreach hempty "lan0" voiceDatagrams 0 voiceEvents
  refine ⟨hreach, hempty, hout, hin, fun ticket ht => hplaced ticket ?_⟩
  exact Nat.lt_of_lt_of_eq ht hout.symm

end Feed

end Router
