import Router.Proofs.Shaping.Order
import Router.Proofs.Shaping.Waiting

/-!
# The life of a class

From the time a class is made until it is removed, packets are offered to it and packets leave it (`QueueEvent`),
whatever else happens to the class or to others (`ShapingState.life`). One event does at most one of these to a queue,
and makes a queue anew only under a name that was free (`descends_step`). So the life of a class explains what its
queue holds and counts (`ClassQueue.MadeBy`). Main statements: the counts of a class balance (`counts_run`), and its
packets leave in the order in which they were accepted (`fifo_run`).
-/

namespace Router

/-! ## Events of one queue -/

/-- What can happen to a class. -/
inductive QueueEvent
  /-- A packet is offered to it, with this outcome. -/
  | offered (p : Packet) (outcome : Admission)
  /-- A packet is taken out of it. -/
  | left (p : Packet)

namespace QueueEvent

variable {life : List QueueEvent}

/-- Whether a packet was offered. -/
@[simp] def isOffer : QueueEvent → Bool
  | .offered _ _ => true
  | .left _ => false

/-- The packet that came to wait, if one did. -/
@[simp] def accepted? : QueueEvent → Option Packet
  | .offered p outcome => if outcome.accepted then some p else none
  | .left _ => none

/-- The packet that was given up for one that came to wait, if one was. -/
@[simp] def evicted? : QueueEvent → Option Packet
  | .offered _ outcome => if outcome.accepted then outcome.discarded else none
  | .left _ => none

/-- The packet that was taken out, if one was. -/
@[simp] def left? : QueueEvent → Option Packet
  | .offered _ _ => none
  | .left p => some p

/-- The packet that waits no longer, taken out or given up, if there is one. -/
@[simp] def departed? (e : QueueEvent) : Option Packet :=
  e.left?.or e.evicted?

theorem length_departed (life : List QueueEvent) :
    (life.filterMap departed?).length = (life.filterMap left?).length + (life.filterMap evicted?).length := by
  induction life with
  | nil => rfl
  | cons e rest ih =>
    cases e with
    | left p =>
      show (rest.filterMap departed?).length + 1 =
        (rest.filterMap left?).length + 1 + (rest.filterMap evicted?).length
      omega
    | offered p outcome =>
      have hsame : (QueueEvent.offered p outcome).departed? = (QueueEvent.offered p outcome).evicted? := rfl
      rw [List.filterMap_cons_none (f := left?) rfl]
      cases he : (QueueEvent.offered p outcome).evicted? with
      | none =>
        rw [List.filterMap_cons_none (hsame.trans he), List.filterMap_cons_none he]
        exact ih
      | some v =>
        rw [List.filterMap_cons_some (hsame.trans he), List.filterMap_cons_some he]
        simp only [List.length_cons]
        omega

/-- What is taken out is among what departs, in the same order. -/
theorem left_sublist_departed (life : List QueueEvent) :
    (life.filterMap left?).Sublist (life.filterMap departed?) := by
  induction life with
  | nil => exact .slnil
  | cons e rest ih =>
    cases e with
    | left p => exact ih.cons_cons p
    | offered p outcome =>
      rw [List.filterMap_cons_none (f := left?) rfl]
      exact ih.trans ((List.sublist_cons_self _ rest).filterMap departed?)

end QueueEvent

namespace ClassQueue

variable {q q' : ClassQueue} {p : Packet} {life dealt : List QueueEvent}

/-- What can become of a queue, and what happened to its class then. -/
inductive Becomes (q : ClassQueue) : List QueueEvent → ClassQueue → Prop
  /-- At most its definition and its tokens are others. -/
  | kept (c : TrafficClass) (bucket : Option Bucket) : q.Becomes [] { q with definition := c, bucket }
  | offered (p : Packet) : q.Becomes [.offered p (q.offer p).1] (q.offer p).2
  /-- The oldest packet is taken out. -/
  | left (p : Packet) (rest : List Packet) (bucket : Option Bucket) (h : q.packets = p :: rest) :
      q.Becomes [.left p] { q with packets := rest, bucket, dequeued := q.dequeued + 1 }

theorem becomes_self (q : ClassQueue) : q.Becomes [] q :=
  .kept q.definition q.bucket

theorem becomes_redefine (q : ClassQueue) (c : TrafficClass) (now : Nat) : q.Becomes [] (q.redefine c now) :=
  .kept c _

theorem becomes_take (q : ClassQueue) (now : Nat) : q.Becomes ((q.take now).1.toList.map .left) (q.take now).2 := by
  unfold take
  split
  · exact q.becomes_self
  · rename_i p rest heq _
    exact .left p rest q.bucket heq
  · rename_i p rest bucket heq _
    dsimp only
    split
    · exact .left p rest _ heq
    · exact .kept q.definition _

theorem becomes_take_of_none {now : Nat} (h : (q.take now).1 = none) : q.Becomes [] (q.take now).2 := by
  have hb := q.becomes_take now
  rwa [h] at hb

theorem name_take (q : ClassQueue) (now : Nat) : (q.take now).2.name = q.name :=
  congrArg TrafficClass.name (q.take_definition now)

/-- A queue holds and counts what the life of its class made of it. -/
structure MadeBy (q : ClassQueue) (life : List QueueEvent) : Prop where
  offered : life.countP QueueEvent.isOffer = q.dequeued + q.packets.length + q.dropped
  enqueued : (life.filterMap QueueEvent.accepted?).length = q.enqueued
  dequeued : (life.filterMap QueueEvent.left?).length = q.dequeued
  waiting : life.filterMap QueueEvent.accepted? = life.filterMap QueueEvent.departed? ++ q.packets

theorem madeBy_new (c : TrafficClass) (now : Nat) : (new c now).MadeBy [] :=
  ⟨rfl, rfl, rfl, rfl⟩

/-- In a full queue some packet waits. -/
theorem exists_head_of_isFull (h : q.isFull = true) : ∃ oldest rest, q.packets = oldest :: rest := by
  cases hp : q.packets with
  | cons oldest rest => exact ⟨oldest, rest, rfl⟩
  | nil =>
    simp only [isFull, hp, List.length_nil, Bool.and_eq_true, decide_eq_true_eq, Nat.le_zero] at h
    exact absurd (UInt64.toNat_inj.1 h.2) h.1

theorem MadeBy.offer (h : q.MadeBy life) (p : Packet) :
    (q.offer p).2.MadeBy (life ++ [.offered p (q.offer p).1]) := by
  obtain ⟨hoffered, henqueued, hdequeued, hwaiting⟩ := h
  rcases q.full_cases with hfull | ⟨hfull, hpolicy⟩ | ⟨hfull, hpolicy⟩
  · rw [offer_of_room hfull]
    refine ⟨?_, ?_, ?_, ?_⟩
    · simp [hoffered]
      omega
    · simp [henqueued]
    · simp [hdequeued]
    · simp [hwaiting]
  · rw [offer_of_tail hfull hpolicy]
    refine ⟨?_, ?_, ?_, ?_⟩
    · simp [hoffered]
      omega
    · simp [henqueued]
    · simp [hdequeued]
    · simp [hwaiting]
  · -- The oldest packet makes room.
    obtain ⟨oldest, rest, hpackets⟩ := exists_head_of_isFull hfull
    rw [offer_of_head hfull hpolicy]
    refine ⟨?_, ?_, ?_, ?_⟩
    · simp [hoffered, hpackets]
      omega
    · simp [henqueued]
    · simp [hdequeued]
    · simp [hwaiting, hpackets]

theorem MadeBy.becomes (h : q.MadeBy life) (hb : q.Becomes dealt q') : q'.MadeBy (life ++ dealt) := by
  cases hb with
  | kept c bucket =>
    rw [List.append_nil]
    exact ⟨h.offered, h.enqueued, h.dequeued, h.waiting⟩
  | offered p => exact h.offer p
  | left p rest bucket hpackets =>
    obtain ⟨hoffered, henqueued, hdequeued, hwaiting⟩ := h
    refine ⟨?_, ?_, ?_, ?_⟩
    · simp [hoffered, hpackets]
      omega
    · simp [henqueued]
    · simp [hdequeued]
    · simp [hwaiting, hpackets]

end ClassQueue

/-! ## The queue that is served -/

namespace Scheduler

variable {s s' : Scheduler} {q' : ClassQueue} {now : Nat} {c : TrafficClass} {name : String} {gone : List Packet}

/-- The name of the class that the next packet leaves, if any may leave: the first whose queue lets one go. -/
def served? (s : Scheduler) (now : Nat) : Option String :=
  (s.queues.find? fun q => (q.take now).1.isSome).map ClassQueue.name

/-- The queues up to the first that lets a packet go are asked for one, the others are not. -/
theorem takeFirst_cases (now : Nat) (qs : List ClassQueue) :
    ((∀ q ∈ qs, (q.take now).1 = none) ∧ takeFirst now qs = (none, qs.map fun q => (q.take now).2)) ∨
    ∃ before q after p, qs = before ++ q :: after ∧ (∀ r ∈ before, (r.take now).1 = none) ∧
      (q.take now).1 = some p ∧
      takeFirst now qs = (some p, before.map (fun r => (r.take now).2) ++ (q.take now).2 :: after) := by
  induction qs with
  | nil => exact .inl ⟨by simp, rfl⟩
  | cons q rest ih =>
    rw [takeFirst]
    split
    · rename_i p q' heq
      exact .inr ⟨[], q, rest, p, rfl, by simp, by rw [heq], by rw [heq]; rfl⟩
    · rename_i q' heq
      rcases ih with ⟨hnone, hrest⟩ | ⟨before, r, after, p, rfl, hbefore, hr, hrest⟩
      · refine .inl ⟨?_, ?_⟩
        · simpa [heq] using hnone
        · rw [hrest, List.map_cons, heq]
      · refine .inr ⟨q :: before, r, after, p, rfl, ?_, hr, ?_⟩
        · simpa [heq] using hbefore
        · rw [hrest, List.map_cons, heq]
          rfl

theorem takeFirst_singleton (now : Nat) (q : ClassQueue) :
    takeFirst now [q] = ((q.take now).1, [(q.take now).2]) := by
  rw [takeFirst]
  split
  · rename_i heq
    rw [heq]
  · rename_i heq
    rw [heq]
    rfl

theorem takeFirst_append (now : Nat) (qs rs : List ClassQueue) :
    takeFirst now (qs ++ rs) =
      match takeFirst now qs with
      | (some p, qs') => (some p, qs' ++ rs)
      | (none, qs') => ((takeFirst now rs).1, qs' ++ (takeFirst now rs).2) := by
  induction qs with
  | nil => rfl
  | cons q rest ih =>
    rw [List.cons_append, takeFirst, takeFirst]
    cases htake : q.take now with
    | mk p? q' =>
      cases p? with
      | some p => rfl
      | none =>
        simp only [ih]
        cases hrest : takeFirst now rest with
        | mk r? rest' => cases r? <;> rfl

/-- Serving a scheduler is serving its queues, the default one last. -/
theorem dequeue_eq_takeFirst (s : Scheduler) (now : Nat) :
    ((s.dequeue now).1, (s.dequeue now).2.queues) = takeFirst now s.queues := by
  have hqueues : s.queues = s.ranked ++ [s.fallback] := rfl
  rw [hqueues, takeFirst_append, takeFirst_singleton, dequeue]
  cases hranked : takeFirst now s.ranked with
  | mk p? ranked => cases p? <;> rfl

/-- No packet may leave, or the first queue that lets one go is served, and those behind it stay as they are. -/
theorem dequeue_cases (s : Scheduler) (now : Nat) :
    ((∀ q ∈ s.queues, (q.take now).1 = none) ∧ s.served? now = none ∧ (s.dequeue now).1 = none ∧
      (s.dequeue now).2.queues = s.queues.map fun q => (q.take now).2) ∨
    ∃ before q after p, s.queues = before ++ q :: after ∧ (∀ r ∈ before, (r.take now).1 = none) ∧
      (q.take now).1 = some p ∧ s.served? now = some q.name ∧ (s.dequeue now).1 = some p ∧
      (s.dequeue now).2.queues = before.map (fun r => (r.take now).2) ++ (q.take now).2 :: after := by
  have hserve := s.dequeue_eq_takeFirst now
  rcases takeFirst_cases now s.queues with ⟨hnone, htake⟩ | ⟨before, q, after, p, hs, hbefore, hq, htake⟩
  · rw [htake] at hserve
    obtain ⟨hp, hqueues⟩ := Prod.mk.inj hserve
    refine .inl ⟨hnone, ?_, hp, hqueues⟩
    rw [served?, List.find?_eq_none.2 fun q hq => by simp [hnone q hq], Option.map_none]
  · rw [htake] at hserve
    obtain ⟨hp, hqueues⟩ := Prod.mk.inj hserve
    refine .inr ⟨before, q, after, p, hs, hbefore, hq, ?_, hp, hqueues⟩
    have hnone : before.find? (fun q => (q.take now).1.isSome) = none :=
      List.find?_eq_none.2 fun r hr => by simp [hbefore r hr]
    simp [served?, hs, List.find?_append, hnone, hq]

/-- A packet that is given up for one that is accepted was the oldest in its class. -/
theorem evicts_oldest {p v : Packet} (haccepted : (s.enqueue p).1.accepted = true)
    (hdiscarded : (s.enqueue p).1.discarded = some v) :
    ∃ q ∈ s.queues, q.name = (s.enqueue p).1.className ∧ q.packets.head? = some v := by
  obtain ⟨before, q, after, hs, -, -, ha, -⟩ := s.enqueue_queues p
  rw [ha] at haccepted hdiscarded ⊢
  obtain ⟨kept, -, hold⟩ := ClassQueue.offer_accepted haccepted
  rw [hdiscarded] at hold
  refine ⟨q, by simp [hs], (q.offer_className p).symm, ?_⟩
  rw [← hold]
  rfl

/-- A packet that is taken out was the oldest in its class. -/
theorem takes_oldest {p : Packet} (hp : (s.dequeue now).1 = some p) :
    ∃ q ∈ s.queues, s.served? now = some q.name ∧ q.packets.head? = some p := by
  rcases s.dequeue_cases now with ⟨-, -, hnone, -⟩ | ⟨before, q, after, p', hs, -, hq, hserved, hp', -⟩
  · rw [hnone] at hp
    cases hp
  · obtain rfl := Option.some.inj (hp'.symm.trans hp)
    have htake := q.take_packets now
    rw [hq] at htake
    refine ⟨q, by simp [hs], hserved, ?_⟩
    rw [← htake]
    rfl

end Scheduler

/-! ## What one event does -/

namespace ShapingState

open Scheduler

variable {s : ShapingState} {e : ShapingEvent} {name : String} {past : List QueueEvent}

/-- What an event is to the class of a name. -/
def dealt (s : ShapingState) (name : String) : ShapingEvent → List QueueEvent
  | .enqueue p =>
    if (s.scheduler.enqueue p).1.className = name then [.offered p (s.scheduler.enqueue p).1] else []
  | .dequeue =>
    if s.scheduler.served? s.now = some name then (s.scheduler.dequeue s.now).1.toList.map .left else []
  | _ => []

theorem dealt_of_fails (h : s.Fails e) : s.dealt name e = [] := by
  cases e with
  | enqueue p => exact h.elim
  | dequeue => exact h.elim
  | _ => rfl

/-- Where a queue comes from that is there after an event. -/
inductive Descends (s : ShapingState) (e : ShapingEvent) (q' : ClassQueue) : Prop
  /-- It was there before, and the event was to it what it was to its class. -/
  | there (q : ClassQueue) (hq : q ∈ s.scheduler.queues) (hname : q.name = q'.name)
      (hbecomes : q.Becomes (s.dealt q'.name e) q')
  /-- It was made under a name that was free. -/
  | made (hname : q'.name ∉ s.scheduler.names) (hdealt : s.dealt q'.name e = []) (c : TrafficClass)
      (hnew : q' = .new c s.now)

theorem descends_same {q : ClassQueue} (hq : q ∈ s.scheduler.queues) (hdealt : s.dealt q.name e = []) :
    Descends s e q := by
  refine .there q hq rfl ?_
  rw [hdealt]
  exact q.becomes_self

theorem descends_redefine {q : ClassQueue} {c : TrafficClass} (hq : q ∈ s.scheduler.queues) (hname : q.name = c.name)
    (hdealt : s.dealt c.name e = []) : Descends s e (q.redefine c s.now) := by
  refine .there q hq hname ?_
  rw [q.redefine_name c s.now, hdealt]
  exact q.becomes_redefine c s.now

theorem descends_unserved {q : ClassQueue} (hq : q ∈ s.scheduler.queues) (htake : (q.take s.now).1 = none)
    (hdealt : s.dealt q.name e = []) : Descends s e (q.take s.now).2 := by
  refine .there q hq (q.name_take s.now).symm ?_
  rw [q.name_take s.now, hdealt]
  exact ClassQueue.becomes_take_of_none htake

/-- Queues around one of them have other names than it. -/
theorem name_ne_of_split (h : s.scheduler.Named) {before after : List ClassQueue} {q r : ClassQueue}
    (hs : s.scheduler.queues = before ++ q :: after) (hr : r ∈ before ++ after) : q.name ≠ r.name := by
  have hnodup := h.nodup_names
  rw [names_eq_map, hs, ((List.perm_middle (a := q)).map ClassQueue.name).nodup_iff, List.map_cons,
    List.nodup_cons] at hnodup
  intro hname
  exact hnodup.1 (List.mem_map.2 ⟨r, hr, hname.symm⟩)

theorem descends_enqueue (h : s.scheduler.Named) (p : Packet) :
    ∀ q' ∈ (s.scheduler.enqueue p).2.queues, Descends s (.enqueue p) q' := by
  obtain ⟨before, q, after, hs, -, -, ha, hs'⟩ := s.scheduler.enqueue_queues p
  have hclass : (s.scheduler.enqueue p).1.className = q.name := by
    rw [ha, q.offer_className p]
    rfl
  have hother : ∀ r ∈ before ++ after, Descends s (.enqueue p) r := by
    intro r hr
    refine descends_same (by rw [hs]; grind) ?_
    rw [dealt, hclass, if_neg (name_ne_of_split h hs hr)]
  intro q' hq'
  rw [hs'] at hq'
  rcases List.mem_append.1 hq' with hr | hr
  · exact hother q' (List.mem_append_left _ hr)
  · rcases List.mem_cons.1 hr with rfl | hr
    · have hname : (q.offer p).2.name = q.name := congrArg TrafficClass.name (q.offer_definition p)
      refine .there q (by simp [hs]) hname.symm ?_
      rw [dealt, hclass, hname, if_pos rfl, ha]
      exact .offered p
    · exact hother q' (List.mem_append_right _ hr)

theorem descends_dequeue (h : s.scheduler.Named) :
    ∀ q' ∈ (s.scheduler.dequeue s.now).2.queues, Descends s .dequeue q' := by
  rcases s.scheduler.dequeue_cases s.now with ⟨hnone, hserved, -, hs'⟩ |
    ⟨before, q, after, p, hs, hbefore, hq, hserved, hp, hs'⟩
  · intro q' hq'
    rw [hs'] at hq'
    obtain ⟨q, hq, rfl⟩ := List.mem_map.1 hq'
    exact descends_unserved hq (hnone q hq) (by simp [dealt, hserved])
  · have hother : ∀ r ∈ before ++ after, r ∈ s.scheduler.queues ∧ s.dealt r.name .dequeue = [] := by
      intro r hr
      refine ⟨by rw [hs]; grind, ?_⟩
      rw [dealt, hserved, if_neg (by simpa using name_ne_of_split h hs hr)]
    intro q' hq'
    rw [hs'] at hq'
    rcases List.mem_append.1 hq' with hr | hr
    · obtain ⟨r, hfront, rfl⟩ := List.mem_map.1 hr
      obtain ⟨hmem, hdealt⟩ := hother r (List.mem_append_left _ hfront)
      exact descends_unserved hmem (hbefore r hfront) hdealt
    · rcases List.mem_cons.1 hr with rfl | hr
      · refine .there q (by simp [hs]) (q.name_take s.now).symm ?_
        rw [q.name_take s.now, dealt, hserved, if_pos rfl, hp, ← hq]
        exact q.becomes_take s.now
      · obtain ⟨hmem, hdealt⟩ := hother q' (List.mem_append_right _ hr)
        exact descends_same hmem hdealt

theorem descends_add {s' : Scheduler} {c : TrafficClass} (h : s.scheduler.Named)
    (ha : s.scheduler.add s.now c = .ok s') : ∀ q' ∈ s'.queues, Descends s (.add c) q' := by
  intro q' hq'
  rw [queues_add h ha] at hq'
  have hmem := (Ranking.rank_perm _ _).mem_iff.1 hq'
  rcases List.mem_append.1 hmem with hq | hq
  · exact descends_same hq rfl
  · obtain rfl := List.mem_singleton.1 hq
    refine .made ?_ rfl c rfl
    intro hthere
    obtain ⟨error, herror⟩ : ∃ error, s.scheduler.add s.now c = .error error := add_error_iff.2 hthere
    rw [ha] at herror
    cases herror

theorem descends_remove? {s' : Scheduler} {gone : List Packet}
    (hr : s.scheduler.remove? name = some (s', gone)) : ∀ q' ∈ s'.queues, Descends s (.remove name) q' := by
  intro q' hq'
  rw [queues_remove? hr] at hq'
  exact descends_same (List.mem_of_mem_eraseP hq') rfl

theorem descends_update? {s' : Scheduler} {c : TrafficClass} (h : s.scheduler.Named) (horder : s.scheduler.InOrder)
    (hu : s.scheduler.update? s.now c = some s') : ∀ q' ∈ s'.queues, Descends s (.update c) q' := by
  intro q' hq'
  rw [queues_update? h horder hu] at hq'
  obtain ⟨q, hq, rfl⟩ := List.mem_map.1 ((Ranking.rank_perm _ _).mem_iff.1 hq')
  split
  · rename_i hname
    exact descends_redefine hq hname rfl
  · exact descends_same hq rfl

theorem descends_replace (h : s.scheduler.Named) (classes : List TrafficClass) :
    ∀ q' ∈ (s.scheduler.replace s.now classes).1.queues, Descends s (.replace classes) q' := by
  intro q' hq'
  rw [queues_replace h] at hq'
  rcases List.mem_append.1 ((Ranking.rank_perm _ _).mem_iff.1 hq') with hq | hq
  · obtain ⟨c, -, rfl⟩ := List.mem_map.1 hq
    cases hfind : s.scheduler.queue? c.name with
    | some q =>
      have hname := List.find?_some hfind
      rw [carried, hfind]
      exact descends_redefine (List.mem_of_find?_eq_some hfind) (of_decide_eq_true hname) rfl
    | none =>
      rw [carried, hfind]
      exact .made (queue?_eq_none_iff.1 hfind) rfl c rfl
  · split at hq
    · cases hq
    · obtain rfl := List.mem_singleton.1 hq
      exact descends_same (List.mem_append_right _ (List.mem_singleton_self _)) rfl

/-- Every queue that is there after an event was there before, or is new under a name that was free. -/
theorem descends_step (h : s.scheduler.Named) (horder : s.scheduler.InOrder) (e : ShapingEvent) :
    ∀ q' ∈ (s.step e).scheduler.queues, Descends s e q' := by
  have htold := s.told_step e
  generalize (s.step e).scheduler = s' at htold ⊢
  cases htold with
  | waited duration => exact fun q hq => descends_same hq rfl
  | failed hfails => exact fun q hq => descends_same hq (dealt_of_fails hfails)
  | enqueued p => exact descends_enqueue h p
  | dequeued => exact descends_dequeue h
  | added ha => exact descends_add h ha
  | removed hr => exact descends_remove? hr
  | updated hu => exact descends_update? h horder hu
  | replaced classes => exact descends_replace h classes

/-! ## Every history -/

/-- What happened to the class of a name since it was made, behind a past; nothing as long as there is no such class. -/
def life (s : ShapingState) (name : String) (past : List QueueEvent) : List ShapingEvent → List QueueEvent
  | [] => past
  | e :: rest =>
    (s.step e).life name (if name ∈ (s.step e).scheduler.names then past ++ s.dealt name e else []) rest

/-- A past explains the queue of a name, and is empty if there is none. -/
structure Explained (s : ShapingState) (name : String) (past : List QueueEvent) : Prop where
  named : s.scheduler.Named
  inOrder : s.scheduler.InOrder
  made : ∀ q ∈ s.scheduler.queues, q.name = name → q.MadeBy past
  absent : name ∉ s.scheduler.names → past = []

theorem explained_start (born : Nat) (name : String) : Explained (start born) name [] where
  named := named_new born
  inOrder := inOrder_new born
  made q hq _ := by
    obtain rfl := List.mem_singleton.1 hq
    exact ClassQueue.madeBy_new .default born
  absent _ := rfl

theorem Explained.step (h : s.Explained name past) (e : ShapingEvent) :
    (s.step e).Explained name (if name ∈ (s.step e).scheduler.names then past ++ s.dealt name e else []) where
  named := named_step h.named e
  inOrder := inOrder_step h.named h.inOrder e
  absent hnone := if_neg hnone
  made q' hq' hname := by
    have hthere : name ∈ (s.step e).scheduler.names := by
      rw [names_eq_map, ← hname]
      exact List.mem_map_of_mem hq'
    rw [if_pos hthere]
    cases descends_step h.named h.inOrder e q' hq' with
    | there q hq hsame hbecomes =>
      rw [hname] at hsame hbecomes
      exact (h.made q hq hsame).becomes hbecomes
    | made hfree hdealt c hnew =>
      rw [hname] at hfree hdealt
      rw [h.absent hfree, hdealt, hnew]
      exact ClassQueue.madeBy_new c s.now

theorem Explained.run (h : s.Explained name past) (events : List ShapingEvent) :
    (s.run events).Explained name (s.life name past events) := by
  induction events generalizing s past with
  | nil => exact h
  | cons e rest ih => exact ih (h.step e)

theorem madeBy_run (born : Nat) (events : List ShapingEvent) {q : ClassQueue}
    (hq : q ∈ ((start born).run events).scheduler.queues) : q.MadeBy ((start born).life q.name [] events) :=
  ((explained_start born q.name).run events).made q hq rfl

/-- Of every class that is there after a history: the packets offered to it since it was made are as many as it counts
taken out, waiting and dropped. Those it counts as accepted are as many as it counts taken out, those that wait, and
those given up for others. -/
theorem counts_run (born : Nat) (events : List ShapingEvent) :
    ∀ q ∈ ((start born).run events).scheduler.queues,
      ((start born).life q.name [] events).countP QueueEvent.isOffer =
        q.dequeued + q.packets.length + q.dropped ∧
      q.enqueued = q.dequeued + q.packets.length +
        (((start born).life q.name [] events).filterMap QueueEvent.evicted?).length := by
  intro q hq
  obtain ⟨hoffered, henqueued, hdequeued, hwaiting⟩ := madeBy_run born events hq
  refine ⟨hoffered, ?_⟩
  rw [← henqueued, ← hdequeued, hwaiting, List.length_append, QueueEvent.length_departed]
  omega

/-- A packet of a call, known by its port. -/
def spoken (port : UInt16) : Packet :=
  .new [] "lan0" ⟨some (.v4 0x0A000001), some (.v4 0x08080808), .udp, port, 5060, 0⟩

/-- A class for calls, of which two packets can wait, and the newest stay. -/
def voice : TrafficClass :=
  { TrafficClass.plain "voice" 10 with protocol := some .udp, maxQueue := 2, dropPolicy := .head }

/-- The third packet takes the place of the first. The fourth is refused, because only one may wait then and it is the
older that stays. -/
def call : List ShapingEvent :=
  [.add voice, .enqueue (spoken 1), .enqueue (spoken 2), .enqueue (spoken 3), .dequeue,
    .update { voice with maxQueue := 1, dropPolicy := .tail }, .enqueue (spoken 4),
    .replace [{ TrafficClass.plain "bulk" 50 with protocol := some .tcp }, { voice with priority := -3 }],
    .enqueue (spoken 5)]

/-- Five packets are offered to the class for calls, and one is given up for another. -/
theorem counts_call :
    ∃ q ∈ ((start 0).run call).scheduler.queues, q.name = "voice" ∧
      q.dequeued = 1 ∧ q.packets.length = 2 ∧ q.dropped = 2 ∧ q.enqueued = 4 ∧
      ((start 0).life q.name [] call).countP QueueEvent.isOffer = 5 ∧
      (((start 0).life q.name [] call).filterMap QueueEvent.evicted?).length = 1 := by
  obtain ⟨q, hq⟩ : ∃ q, ((start 0).run call).scheduler.queue? "voice" = some q :=
    Option.isSome_iff_exists.1 (by decide)
  have hstats : (((start 0).run call).scheduler.queue? "voice").map
      (fun q => (q.name, q.dequeued, q.packets.length, q.dropped, q.enqueued)) = some ("voice", 1, 2, 2, 4) := by
    decide
  rw [hq, Option.map_some, Option.some.injEq] at hstats
  simp only [Prod.mk.injEq] at hstats
  obtain ⟨hname, hdequeued, hwaiting, hdropped, henqueued⟩ := hstats
  have hmem := List.mem_of_find?_eq_some hq
  obtain ⟨hoffered, hevicted⟩ := counts_run 0 call q hmem
  refine ⟨q, hmem, hname, hdequeued, hwaiting, hdropped, henqueued, ?_, ?_⟩
  · omega
  · omega

/-- Of every class that is there after a history: the packets that were accepted since it was made are those that
departed, taken out or given up, and then those that wait, in this order, and what was taken out is in order among
what departed. What is given up next for a packet that is accepted, and what is taken out next, is the oldest in its
class. -/
theorem fifo_run (born : Nat) (events : List ShapingEvent) :
    let s := (start born).run events
    (∀ q ∈ s.scheduler.queues,
      ((start born).life q.name [] events).filterMap QueueEvent.accepted? =
        ((start born).life q.name [] events).filterMap QueueEvent.departed? ++ q.packets ∧
      (((start born).life q.name [] events).filterMap QueueEvent.left?).Sublist
        (((start born).life q.name [] events).filterMap QueueEvent.departed?)) ∧
    (∀ p v, (s.scheduler.enqueue p).1.accepted = true → (s.scheduler.enqueue p).1.discarded = some v →
      ∃ q ∈ s.scheduler.queues, q.name = (s.scheduler.enqueue p).1.className ∧ q.packets.head? = some v) ∧
    ∀ p, (s.scheduler.dequeue s.now).1 = some p →
      ∃ q ∈ s.scheduler.queues, s.scheduler.served? s.now = some q.name ∧ q.packets.head? = some p := by
  refine ⟨fun q hq => ?_, fun p v => evicts_oldest, fun p => takes_oldest⟩
  exact ⟨(madeBy_run born events hq).waiting, QueueEvent.left_sublist_departed _⟩

/-- The first packet of the call made room, the second was taken out, and the third and the fifth wait behind them. -/
theorem fifo_call :
    ∃ q ∈ ((start 0).run call).scheduler.queues, q.name = "voice" ∧ q.packets = [spoken 3, spoken 5] ∧
      ((start 0).life q.name [] call).filterMap QueueEvent.accepted? =
        [spoken 1, spoken 2, spoken 3, spoken 5] := by
  obtain ⟨q, hq⟩ : ∃ q, ((start 0).run call).scheduler.queue? "voice" = some q :=
    Option.isSome_iff_exists.1 (by decide)
  have hqueue : (((start 0).run call).scheduler.queue? "voice").map (fun q => (q.name, q.packets)) =
      some ("voice", [spoken 3, spoken 5]) := by decide
  rw [hq, Option.map_some, Option.some.injEq, Prod.mk.injEq] at hqueue
  obtain ⟨hname, hpackets⟩ := hqueue
  have hmem := List.mem_of_find?_eq_some hq
  obtain ⟨hwaiting, -⟩ := (fifo_run 0 call).1 q hmem
  have hdeparted : ((start 0).life "voice" [] call).filterMap QueueEvent.departed? = [spoken 1, spoken 2] := by decide
  refine ⟨q, hmem, hname, hpackets, ?_⟩
  rw [hwaiting, hname, hdeparted, hpackets]
  rfl

/-- Taking a batch is taking packets one after the other, so batches bring no other states. -/
theorem dequeueBatch_eq_run (s : ShapingState) (max : Nat) :
    ∃ n, s.run (List.replicate n .dequeue) = { s with scheduler := (s.scheduler.dequeueBatch s.now max).2 } := by
  induction max generalizing s with
  | zero => exact ⟨0, rfl⟩
  | succ max ih =>
    rw [dequeueBatch]
    cases hserve : s.scheduler.dequeue s.now with
    | mk p? qos =>
      have hstep : s.step .dequeue = { s with scheduler := qos } := by rw [step, hserve]
      cases p? with
      | none => exact ⟨1, hstep⟩
      | some p =>
        obtain ⟨n, hn⟩ := ih { s with scheduler := qos }
        refine ⟨n + 1, ?_⟩
        rw [List.replicate_succ, run, List.foldl_cons, hstep]
        exact hn

end ShapingState

end Router
