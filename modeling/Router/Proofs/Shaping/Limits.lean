import Router.Proofs.Shaping.Replacement
import Router.Proofs.Shaping.Life

/-!
# How many packets wait

A queue grows by one packet at most, and not at all when it is full (`ClassQueue.Becomes.length_le`). So after one event
no more packets wait in a class with a limit than it allows, or than waited there before (`ShapingState.within_step`);
as long as packets only come and go the same holds of a whole history (`ShapingState.within_run`), and a class that
holds more than it allows does not grow while it does (`ShapingState.lengthOf_run_le`). A packet that is offered brings
one more unless one is given up for it (`Scheduler.totalQueued_enqueue`), and it is itself the one given up exactly if
it is refused (`Scheduler.accepted_eq_false_iff`). Main statement: `ShapingState.keepsLimits_run`.
-/

namespace Router

/-! ## One queue -/

namespace ClassQueue

variable {q q' : ClassQueue} {dealt : List QueueEvent} {n : Nat}

/-- If the class has a limit, at most as many packets wait as it allows, or as `n`. -/
def Within (q : ClassQueue) (n : Nat) : Prop :=
  q.definition.maxQueue ≠ 0 → q.packets.length ≤ max q.definition.maxQueue.toNat n

/-- The class has a limit, and more packets wait than it allows. -/
def IsOver (q : ClassQueue) : Prop :=
  q.definition.maxQueue ≠ 0 ∧ q.definition.maxQueue.toNat < q.packets.length

theorem isFull_eq_false_iff :
    q.isFull = false ↔ (q.definition.maxQueue ≠ 0 → q.packets.length < q.definition.maxQueue.toNat) := by
  simp [isFull]

theorem IsOver.isFull (h : q.IsOver) : q.isFull = true := by
  rw [← Bool.not_eq_false, isFull_eq_false_iff]
  intro hroom
  exact Nat.lt_asymm h.2 (hroom h.1)

/-- A full queue does not grow, whichever packet is given up. -/
theorem length_offer_of_full (h : q.isFull = true) (p : Packet) :
    (q.offer p).2.packets.length = q.packets.length := by
  rcases q.full_cases with hroom | ⟨hfull, hpolicy⟩ | ⟨hfull, hpolicy⟩
  · cases hroom.symm.trans h
  · rw [offer_of_tail hfull hpolicy]
  · obtain ⟨oldest, rest, hpackets⟩ := exists_head_of_isFull hfull
    rw [offer_of_head hfull hpolicy, hpackets]
    simp

/-- A queue grows by one packet at most, and only under its old definition when it is not full. -/
theorem Becomes.length_le (h : q.Becomes dealt q') :
    q'.packets.length ≤ q.packets.length ∨
      (q.isFull = false ∧ q'.definition = q.definition ∧ q'.packets.length = q.packets.length + 1) := by
  cases h with
  | kept c bucket => exact .inl (Nat.le_refl _)
  | left p rest bucket hpackets =>
    rw [hpackets]
    exact .inl (Nat.le_succ _)
  | offered p =>
    cases hfull : q.isFull with
    | true => exact .inl (Nat.le_of_eq (length_offer_of_full hfull p))
    | false =>
      refine .inr ⟨rfl, q.offer_definition p, ?_⟩
      rw [offer_of_room hfull, List.length_append]
      rfl

theorem Becomes.within (h : q.Becomes dealt q') : q'.Within q.packets.length := by
  intro hlimit
  rcases h.length_le with hle | ⟨hroom, hdefinition, hlength⟩
  · exact Nat.le_trans hle (Nat.le_max_right _ _)
  · rw [hdefinition] at hlimit ⊢
    have hless := isFull_eq_false_iff.1 hroom hlimit
    omega

theorem Becomes.length_le_of_isOver (h : q.Becomes dealt q') (hover : q.IsOver) :
    q'.packets.length ≤ q.packets.length := by
  rcases h.length_le with hle | ⟨hroom, -, -⟩
  · exact hle
  · cases hroom.symm.trans hover.isFull

/-- Whether a packet is accepted is up to the queue. -/
theorem accepted_offer (q : ClassQueue) (p p' : Packet) : (q.offer p).1.accepted = (q.offer p').1.accepted := by
  rcases q.full_cases with h | ⟨h, hp⟩ | ⟨h, hp⟩
  · rw [offer_of_room h, offer_of_room h]
  · rw [offer_of_tail h hp, offer_of_tail h hp]
  · rw [offer_of_head h hp, offer_of_head h hp]

end ClassQueue

/-! ## All queues -/

namespace Scheduler

variable {s : Scheduler} {q : ClassQueue} {name : String} {p : Packet} {ticket : Nat}

/-- How many packets wait under a name; none if there is no such class. -/
def lengthOf (s : Scheduler) (name : String) : Nat :=
  (held s.queues name).length

theorem lengthOf_of_mem (h : s.Named) (hq : q ∈ s.queues) : s.lengthOf q.name = q.packets.length := by
  have hfind : s.queues.find? (·.definition.name = q.name) = some q := (queue?_eq_some_iff h).2 ⟨hq, rfl⟩
  rw [lengthOf, held, hfind]
  rfl

theorem lengthOf_of_not_mem (h : name ∉ s.names) : s.lengthOf name = 0 := by
  rw [names_eq_map] at h
  rw [lengthOf, held_of_not_mem h, List.length_nil]

/-- The class of a name holds more packets than it allows. -/
def IsOver (s : Scheduler) (name : String) : Prop :=
  ∃ q ∈ s.queues, q.name = name ∧ q.IsOver

/-- One more packet waits, unless one was given up. -/
theorem totalQueued_enqueue (s : Scheduler) (p : Packet) :
    (s.enqueue p).2.totalQueued + (s.enqueue p).1.discarded.toList.length = s.totalQueued + 1 := by
  have hlength := (s.waiting_enqueue p).length_eq
  rw [List.length_append, List.length_cons] at hlength
  rw [totalQueued_eq, totalQueued_eq, Nat.add_comm]
  exact hlength

theorem dropped_enqueue_iff (s : Scheduler) (p : Packet) :
    (s.enqueue p).1.dropped = true ↔ (s.enqueue p).2.totalQueued ≠ s.totalQueued + 1 := by
  have htotal := s.totalQueued_enqueue p
  rw [Admission.dropped]
  cases hd : (s.enqueue p).1.discarded with
  | none =>
    rw [hd] at htotal
    simpa using htotal
  | some v =>
    rw [hd, Option.toList_some, List.length_singleton] at htotal
    simp only [Option.isSome_some, true_iff]
    omega

/-- A packet that is none of those that wait is refused exactly if it is the one given up. -/
theorem accepted_eq_false_iff (h : p ∉ s.waiting) :
    (s.enqueue p).1.accepted = false ↔ (s.enqueue p).1.discarded = some p := by
  constructor
  · intro hrefused
    obtain ⟨before, q, after, -, -, -, ha, -⟩ := s.enqueue_queues p
    rw [ha] at hrefused ⊢
    exact (ClassQueue.offer_refused hrefused).1
  · intro hgiven
    cases haccepted : (s.enqueue p).1.accepted with
    | false => rfl
    | true =>
      -- What is given up for a packet that is accepted waited before.
      obtain ⟨q, hq, -, hhead⟩ := evicts_oldest haccepted hgiven
      exact absurd (List.mem_flatMap.2 ⟨q, hq, List.mem_of_head? hhead⟩) h

/-- Whether a packet is accepted does not depend on its ticket. -/
theorem accepted_withTicket (h : s.Named) (p : Packet) (ticket : Nat) :
    (s.enqueue (p.withTicket ticket)).1.accepted = (s.enqueue p).1.accepted := by
  obtain ⟨q, hq, ha, -, -⟩ := files h p
  obtain ⟨q', hq', ha', -, -⟩ := files h (p.withTicket ticket)
  have hsame : s.slot (p.withTicket ticket) = s.slot p := rfl
  rw [hsame, hq] at hq'
  obtain rfl := Option.some.inj hq'
  rw [ha, ha']
  exact q.accepted_offer _ _

/-- A packet is refused exactly if it is itself the one given up, known by a ticket that none of those that wait has. -/
theorem refused_iff (h : s.Named) (p : Packet) (hticket : ticket ∉ tickets s.waiting) :
    (s.enqueue p).1.accepted = false ↔
      (s.enqueue (p.withTicket ticket)).1.discarded = some (p.withTicket ticket) := by
  have hnew : p.withTicket ticket ∉ s.waiting := fun hmem => hticket (List.mem_filterMap.2 ⟨_, hmem, rfl⟩)
  rw [← accepted_eq_false_iff hnew, accepted_withTicket h]

end Scheduler

/-! ## Every history -/

/-- Whether an event is a packet that comes or goes, or time that goes by. -/
def ShapingEvent.isTraffic : ShapingEvent → Bool
  | .enqueue _ | .dequeue | .wait _ => true
  | _ => false

namespace ShapingState

open Scheduler

variable {s : ShapingState} {e : ShapingEvent} {events : List ShapingEvent} {q : ClassQueue} {name : String}

theorem within_step (h : s.scheduler.Named) (horder : s.scheduler.InOrder) (e : ShapingEvent) :
    ∀ q ∈ (s.step e).scheduler.queues, q.Within (s.scheduler.lengthOf q.name) := by
  intro q hq
  cases descends_step h horder e q hq with
  | there old hold hname hbecomes =>
    rw [← hname, lengthOf_of_mem h hold]
    exact hbecomes.within
  | made hfree hdealt c hnew =>
    subst hnew
    exact fun _ => Nat.zero_le _

theorem lengthOf_step_le (h : s.scheduler.Named) (horder : s.scheduler.InOrder) (hover : s.scheduler.IsOver name)
    (e : ShapingEvent) : (s.step e).scheduler.lengthOf name ≤ s.scheduler.lengthOf name := by
  have hnamed := named_step h e
  by_cases hthere : name ∈ (s.step e).scheduler.names
  · rw [names_eq_map] at hthere
    obtain ⟨q, hq, rfl⟩ := List.mem_map.1 hthere
    rw [lengthOf_of_mem hnamed hq]
    cases descends_step h horder e q hq with
    | there old hold hname hbecomes =>
      obtain ⟨r, hr, hrname, hr'⟩ := hover
      have hsame : s.scheduler.queue? old.name = some r := (queue?_eq_some_iff h).2 ⟨hr, hrname.trans hname.symm⟩
      obtain rfl : r = old := Option.some.inj (hsame.symm.trans ((queue?_eq_some_iff h).2 ⟨hold, rfl⟩))
      rw [← hname, lengthOf_of_mem h hold]
      exact hbecomes.length_le_of_isOver hr'
    | made hfree hdealt c hnew =>
      subst hnew
      exact Nat.zero_le _
  · rw [lengthOf_of_not_mem hthere]
    exact Nat.zero_le _

/-- A class that holds more packets than it allows does not grow as long as it does, whatever happens. -/
theorem lengthOf_run_le (h : s.scheduler.Named) (horder : s.scheduler.InOrder)
    (hover : ∀ front e back, events = front ++ e :: back → (s.run front).scheduler.IsOver name) :
    (s.run events).scheduler.lengthOf name ≤ s.scheduler.lengthOf name := by
  induction events generalizing s with
  | nil => exact Nat.le_refl _
  | cons e rest ih =>
    have hrest : ∀ front e' back, rest = front ++ e' :: back → ((s.step e).run front).scheduler.IsOver name :=
      fun front e' back hsplit => hover (e :: front) e' back (congrArg (e :: ·) hsplit)
    calc
      ((s.step e).run rest).scheduler.lengthOf name ≤ (s.step e).scheduler.lengthOf name :=
        ih (named_step h e) (inOrder_step h horder e) hrest
      _ ≤ s.scheduler.lengthOf name := lengthOf_step_le h horder (hover [] e rest rfl) e

theorem classes_step_of_isTraffic (he : e.isTraffic = true) : (s.step e).scheduler.classes = s.scheduler.classes := by
  cases e with
  | enqueue p => exact s.scheduler.classes_enqueue p
  | dequeue => exact s.scheduler.classes_dequeue s.now
  | wait _ => rfl
  | add _ | remove _ | update _ | replace _ => cases he

/-- As long as packets only come and go, a class holds no more than it allows, or than it held at first. -/
theorem within_run (h : s.scheduler.Named) (horder : s.scheduler.InOrder)
    (hevents : ∀ e ∈ events, e.isTraffic = true) :
    ∀ q ∈ (s.run events).scheduler.queues, q.Within (s.scheduler.lengthOf q.name) := by
  induction events using List.reverseRecOn with
  | nil =>
    intro q hq _
    rw [lengthOf_of_mem h hq]
    exact Nat.le_max_right _ _
  | append_singleton events e ih =>
    obtain ⟨hbefore, hlast⟩ := List.forall_mem_append.1 hevents
    have hnamed := named_run h events
    have hrun : s.run (events ++ [e]) = (s.run events).step e := List.foldl_append ..
    intro q hq hlimit
    rw [hrun] at hq
    -- The class was there before the last event, with the same limit.
    have hclass : q.definition ∈ (s.run events).scheduler.classes := by
      rw [← classes_step_of_isTraffic (hlast e (List.mem_singleton_self e))]
      exact List.mem_map_of_mem hq
    obtain ⟨old, hold, hdefinition⟩ := List.mem_map.1 hclass
    have hname : old.name = q.name := congrArg TrafficClass.name hdefinition
    have hstep := within_step hnamed (inOrder_run h horder events) e q hq hlimit
    rw [← hname, lengthOf_of_mem hnamed hold] at hstep
    have hrest := ih hbefore old hold (hdefinition ▸ hlimit)
    rw [hdefinition, hname] at hrest
    omega

/-- How many packets wait, and which are given up. -/
structure KeepsLimits (s : ShapingState) : Prop where
  /-- After any event a class with a limit holds no more packets than it allows, or than it held before. -/
  bound : ∀ e, ∀ q ∈ (s.step e).scheduler.queues, q.Within (s.scheduler.lengthOf q.name)
  /-- So it does after any number of packets came and went. -/
  traffic : ∀ events, (∀ e ∈ events, e.isTraffic = true) →
    ∀ q ∈ (s.run events).scheduler.queues, q.Within (s.scheduler.lengthOf q.name)
  /-- So it does after a batch. -/
  batch : ∀ max, ∀ q ∈ (s.scheduler.dequeueBatch s.now max).2.queues, q.Within (s.scheduler.lengthOf q.name)
  /-- A class that holds more than it allows does not grow as long as it does, whatever happens. -/
  overfull : ∀ name events,
    (∀ front e back, events = front ++ e :: back → (s.run front).scheduler.IsOver name) →
      (s.run events).scheduler.lengthOf name ≤ s.scheduler.lengthOf name
  /-- A packet is given up exactly if there is not one packet more afterwards. -/
  dropped : ∀ p,
    (s.scheduler.enqueue p).1.dropped = true ↔
      (s.scheduler.enqueue p).2.totalQueued ≠ s.scheduler.totalQueued + 1
  /-- A packet is refused exactly if it is itself the one given up, known by a ticket that none of those that wait
  has. -/
  refused : ∀ p ticket, ticket ∉ tickets s.scheduler.waiting →
    ((s.scheduler.enqueue p).1.accepted = false ↔
      (s.scheduler.enqueue (p.withTicket ticket)).1.discarded = some (p.withTicket ticket))

/-- In every state a scheduler comes to, a limit is kept by all that happens from then on, but for what waited already
when the limit was set. -/
theorem keepsLimits_run (born : Nat) (events : List ShapingEvent) : ((start born).run events).KeepsLimits := by
  have hnamed := named_run (s := start born) (named_new born) events
  have horder := inOrder_run (s := start born) (named_new born) (inOrder_new born) events
  constructor
  case bound => exact within_step hnamed horder
  case traffic => exact fun later hlater => within_run hnamed horder hlater
  case batch =>
    intro max
    obtain ⟨n, hbatch⟩ := dequeueBatch_eq_run ((start born).run events) max
    have htraffic : ∀ e ∈ List.replicate n ShapingEvent.dequeue, e.isTraffic = true := by
      intro e he
      rw [List.eq_of_mem_replicate he]
      rfl
    have hrun := within_run hnamed horder htraffic
    rwa [hbatch] at hrun
  case overfull => exact fun name later hover => lengthOf_run_le hnamed horder hover
  case dropped => exact dropped_enqueue_iff _
  case refused => exact fun p ticket hticket => refused_iff hnamed p hticket

/-- Three packets of a call come to wait in a class without limit, which is then allowed two. -/
def crammed : List ShapingEvent :=
  [.add { voice with maxQueue := 0 }, .enqueue (spoken 1), .enqueue (spoken 2), .enqueue (spoken 3), .update voice]

/-- A packet that comes then takes the place of the oldest, and is not the one given up; three still wait. When one has
left, no more than two wait, however many come. -/
theorem keepsLimits_crammed :
    ((start 0).run crammed).scheduler.IsOver "voice" ∧
      (((start 0).run crammed).step (.enqueue (spoken 4))).scheduler.lengthOf "voice" ≤ 3 ∧
      (((start 0).run crammed).scheduler.enqueue ((spoken 4).withTicket 9)).1.discarded ≠
        some ((spoken 4).withTicket 9) ∧
      ∃ q ∈ (((start 0).run (crammed ++ [.dequeue])).run [.enqueue (spoken 5), .enqueue (spoken 6)]).scheduler.queues,
        q.name = "voice" ∧ q.packets.length ≤ 2 := by
  have hlimits := keepsLimits_run 0 crammed
  have hlater := keepsLimits_run 0 (crammed ++ [.dequeue])
  have hover : ((start 0).run crammed).scheduler.IsOver "voice" := by
    unfold Scheduler.IsOver ClassQueue.IsOver
    decide
  have hlength : ((start 0).run crammed).scheduler.lengthOf "voice" = 3 := by decide
  have hless : ((start 0).run (crammed ++ [.dequeue])).scheduler.lengthOf "voice" = 2 := by decide
  have haccepted : (((start 0).run crammed).scheduler.enqueue (spoken 4)).1.accepted ≠ false := by decide
  have hticket : 9 ∉ tickets ((start 0).run crammed).scheduler.waiting := by decide
  have hthere : ∃ q ∈ (((start 0).run (crammed ++ [.dequeue])).run
      [.enqueue (spoken 5), .enqueue (spoken 6)]).scheduler.queues, q.name = "voice" ∧ q.definition.maxQueue = 2 := by
    decide
  refine ⟨hover, ?_, mt (hlimits.refused (spoken 4) 9 hticket).2 haccepted, ?_⟩
  · refine hlength ▸ hlimits.overfull "voice" [.enqueue (spoken 4)] fun front e back hsplit => ?_
    cases front with
    | nil => exact hover
    | cons e' front => simp at hsplit
  · obtain ⟨q, hq, hname, hlimit⟩ := hthere
    have hwithin := hlater.traffic [.enqueue (spoken 5), .enqueue (spoken 6)] (by decide) q hq (by rw [hlimit]; decide)
    rw [hlimit, hname, hless] at hwithin
    exact ⟨q, hq, hname, hwithin⟩

end ShapingState

end Router
