import Router.Proofs.Shaping.Life

/-!
# Classes without limits

What a queue has when it is made, and keeps whatever is done with it, every queue of a scheduler has at any time
(`ShapingState.forall_queues_run`). One such thing is that a class without a rate has no bucket (`Scheduler.Metered`).
Main statements: where no class has a limit every packet that is offered waits (`enqueue_of_unlimited`), and as long as
any waits one may leave (`dequeue_of_unlimited`).
-/

namespace Router

/-! ## What every queue keeps -/

namespace ShapingState

open Scheduler

variable {s : ShapingState} {holds : ClassQueue → Prop}

/-- A property that new queues have, and that a queue keeps when it is redefined, offered a packet or asked for one. -/
structure Kept (holds : ClassQueue → Prop) : Prop where
  new : ∀ c now, holds (.new c now)
  redefine : ∀ q c now, holds q → holds (q.redefine c now)
  offer : ∀ q p, holds q → holds (q.offer p).2
  take : ∀ q now, holds q → holds (q.take now).2

theorem Kept.enqueue {q : Scheduler} (hkept : Kept holds) (h : ∀ r ∈ q.queues, holds r) (p : Packet) :
    ∀ r ∈ (q.enqueue p).2.queues, holds r := by
  obtain ⟨before, r, after, hs, -, -, -, hs'⟩ := q.enqueue_queues p
  rw [hs, List.forall_mem_append, List.forall_mem_cons] at h
  rw [hs', List.forall_mem_append, List.forall_mem_cons]
  exact ⟨h.1, hkept.offer r p h.2.1, h.2.2⟩

theorem Kept.dequeue {q : Scheduler} (hkept : Kept holds) (h : ∀ r ∈ q.queues, holds r) (now : Nat) :
    ∀ r ∈ (q.dequeue now).2.queues, holds r := by
  have hmap : ∀ qs : List ClassQueue, (∀ r ∈ qs, holds r) → ∀ r ∈ qs.map fun r => (r.take now).2, holds r := by
    intro qs hqs r hr
    obtain ⟨r', hr', rfl⟩ := List.mem_map.1 hr
    exact hkept.take r' now (hqs r' hr')
  rcases q.dequeue_cases now with ⟨-, -, -, hs'⟩ | ⟨before, r, after, p, hs, -, -, -, -, hs'⟩
  · rw [hs']
    exact hmap q.queues h
  · rw [hs, List.forall_mem_append, List.forall_mem_cons] at h
    rw [hs', List.forall_mem_append, List.forall_mem_cons]
    exact ⟨hmap before h.1, hkept.take r now h.2.1, h.2.2⟩

theorem forall_rankAll {queues : List ClassQueue} (h : ∀ q ∈ queues, holds q) : ∀ q ∈ rankAll queues, holds q :=
  fun q hq => h q ((Ranking.rank_perm _ queues).mem_iff.1 hq)

theorem Kept.carried {q : Scheduler} (hkept : Kept holds) (h : ∀ r ∈ q.queues, holds r) (now : Nat)
    (c : TrafficClass) : holds (q.carried now c) := by
  unfold Scheduler.carried
  split
  · rename_i r hr
    exact hkept.redefine r c now (h r (List.mem_of_find?_eq_some hr))
  · exact hkept.new c now

theorem Kept.step (hkept : Kept holds) (hnamed : s.scheduler.Named) (horder : s.scheduler.InOrder)
    (h : ∀ q ∈ s.scheduler.queues, holds q) (e : ShapingEvent) : ∀ q ∈ (s.step e).scheduler.queues, holds q := by
  have htold := s.told_step e
  generalize (s.step e).scheduler = s' at htold ⊢
  cases htold with
  | waited duration => exact h
  | failed => exact h
  | enqueued p => exact hkept.enqueue h p
  | dequeued => exact hkept.dequeue h s.now
  | @added c _ ha =>
    rw [queues_add hnamed ha]
    exact forall_rankAll (List.forall_mem_append.2 ⟨h, List.forall_mem_singleton.2 (hkept.new c s.now)⟩)
  | removed hr =>
    rw [queues_remove? hr]
    exact fun q hq => h q (List.mem_of_mem_eraseP hq)
  | @updated c _ hu =>
    rw [queues_update? hnamed horder hu]
    refine forall_rankAll fun q hq => ?_
    obtain ⟨r, hr, rfl⟩ := List.mem_map.1 hq
    split
    · exact hkept.redefine r c s.now (h r hr)
    · exact h r hr
  | replaced classes =>
    rw [queues_replace hnamed]
    refine forall_rankAll (List.forall_mem_append.2 ⟨?_, ?_⟩)
    · intro q hq
      obtain ⟨c, -, rfl⟩ := List.mem_map.1 hq
      exact hkept.carried h s.now c
    · split
      · exact List.forall_mem_nil _
      · exact List.forall_mem_singleton.2 (h _ (List.mem_append_right _ (List.mem_singleton_self _)))

theorem forall_queues_run (hkept : Kept holds) (hnamed : s.scheduler.Named) (horder : s.scheduler.InOrder)
    (h : ∀ q ∈ s.scheduler.queues, holds q) (events : List ShapingEvent) :
    ∀ q ∈ (s.run events).scheduler.queues, holds q := by
  induction events generalizing s with
  | nil => exact h
  | cons e rest ih =>
    exact ih (named_step hnamed e) (inOrder_step hnamed horder e) (hkept.step hnamed horder h e)

end ShapingState

/-! ## Buckets -/

namespace ClassQueue

variable {q : ClassQueue}

/-- A class without a rate has no bucket. -/
def Metered (q : ClassQueue) : Prop :=
  q.definition.rateKbps = 0 → q.bucket = none

theorem bucketFor_of_unlimited {c : TrafficClass} (h : c.rateKbps = 0) (now : Nat) : bucketFor c now = none :=
  if_pos h

theorem kept_metered : ShapingState.Kept Metered where
  new _ now h := bucketFor_of_unlimited h now
  redefine q c now h hrate := by
    have hrate : c.rateKbps = 0 := hrate
    rw [redefine]
    dsimp only
    split
    · rename_i hsame
      exact h (hsame.symm.trans hrate)
    · exact bucketFor_of_unlimited hrate now
  offer q p h := by
    rcases q.full_cases with hfull | ⟨hfull, hp⟩ | ⟨hfull, hp⟩
    · rw [offer_of_room hfull]
      exact h
    · rw [offer_of_tail hfull hp]
      exact h
    · rw [offer_of_head hfull hp]
      exact h
  take q now h := by
    intro hrate
    rw [q.take_definition now] at hrate
    have hnone := h hrate
    unfold take
    split
    · exact hnone
    · exact hnone
    · rename_i hbucket
      rw [hnone] at hbucket
      cases hbucket

/-- Neither the rate nor the number of packets that may wait is limited. -/
structure Unlimited (q : ClassQueue) : Prop where
  rate : q.definition.rateKbps = 0
  room : q.definition.maxQueue = 0
  bucket : q.bucket = none

theorem Unlimited.isFull (h : q.Unlimited) : q.isFull = false := by
  simp [ClassQueue.isFull, h.room]

theorem Unlimited.take (h : q.Unlimited) (now : Nat) : (q.take now).1 = q.packets.head? := by
  unfold ClassQueue.take
  rw [h.bucket]
  cases q.packets <;> rfl

end ClassQueue

namespace Scheduler

variable {s : Scheduler} {p : Packet} {now : Nat}

/-- No class without a rate has a bucket. -/
def Metered (s : Scheduler) : Prop :=
  ∀ q ∈ s.queues, q.Metered

theorem Reachable.metered (h : s.Reachable) : s.Metered := by
  obtain ⟨born, events, rfl⟩ := h
  refine ShapingState.forall_queues_run ClassQueue.kept_metered (s := ShapingState.start born) (named_new born)
    (inOrder_new born) (List.forall_mem_singleton.2 ?_) events
  exact ClassQueue.kept_metered.new .default born

/-- No class has a limit. -/
def Unlimited (s : Scheduler) : Prop :=
  ∀ q ∈ s.queues, q.Unlimited

theorem unlimited_of_classes (h : s.Metered) (hclasses : ∀ c ∈ s.classes, c.rateKbps = 0 ∧ c.maxQueue = 0) :
    s.Unlimited := by
  intro q hq
  obtain ⟨hrate, hroom⟩ := hclasses q.definition (List.mem_map_of_mem hq)
  exact ⟨hrate, hroom, h q hq hrate⟩

theorem Metered.enqueue (h : s.Metered) (p : Packet) : (s.enqueue p).2.Metered :=
  ClassQueue.kept_metered.enqueue h p

theorem Metered.dequeue (h : s.Metered) (now : Nat) : (s.dequeue now).2.Metered :=
  ClassQueue.kept_metered.dequeue h now

theorem Unlimited.of_classes {s' : Scheduler} (h : s.Unlimited) (hmetered : s'.Metered)
    (hclasses : s'.classes = s.classes) : s'.Unlimited := by
  refine unlimited_of_classes hmetered ?_
  rw [hclasses]
  intro c hc
  obtain ⟨q, hq, rfl⟩ := List.mem_map.1 hc
  exact ⟨(h q hq).rate, (h q hq).room⟩

theorem Unlimited.metered (h : s.Unlimited) : s.Metered :=
  fun q hq _ => (h q hq).bucket

theorem Unlimited.enqueue (h : s.Unlimited) (p : Packet) : (s.enqueue p).2.Unlimited :=
  h.of_classes (h.metered.enqueue p) (s.classes_enqueue p)

theorem Unlimited.dequeue (h : s.Unlimited) (now : Nat) : (s.dequeue now).2.Unlimited :=
  h.of_classes (h.metered.dequeue now) (s.classes_dequeue now)

/-- A packet that is offered waits, and none is given up. -/
theorem enqueue_of_unlimited (h : s.Unlimited) (p : Packet) :
    (s.enqueue p).1 = ⟨true, (s.enqueue p).1.className, none⟩ := by
  obtain ⟨before, q, after, hs, -, -, ha, -⟩ := s.enqueue_queues p
  have hq : q ∈ s.queues := by simp [hs]
  rw [ha, ClassQueue.offer_of_room (h q hq).isFull]

/-- As long as a packet waits, one leaves. -/
theorem dequeue_of_unlimited (h : s.Unlimited) (now : Nat) : (s.dequeue now).1 = none ↔ s.waiting = [] := by
  rcases s.dequeue_cases now with ⟨hnone, -, hp, -⟩ | ⟨before, q, after, p, hs, -, hq, -, hp, -⟩
  · refine iff_of_true hp (List.flatMap_eq_nil_iff.2 fun q hq => ?_)
    have htake := hnone q hq
    rwa [(h q hq).take, List.head?_eq_none_iff] at htake
  · refine iff_of_false (by simp [hp]) fun hwaiting => ?_
    have hmem : q ∈ s.queues := by simp [hs]
    rw [(h q hmem).take, List.flatMap_eq_nil_iff.1 hwaiting q hmem] at hq
    cases hq

end Scheduler

end Router
