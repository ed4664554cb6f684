import Router.Proofs.Shaping.Service

/-!
# Which class a packet leaves

A log lists packets under the names of their classes (`under`). What leaves a scheduler is listed under the class that
was served (`Scheduler.departures`), and what leaves under a name and what is still held under it afterwards are what
was held under it before, in order (`Scheduler.held_departures`). Without limits a packet that is offered comes to be
held last under the name of its class (`Scheduler.held_enqueue`), and a batch takes out as many packets as it asks for,
or all (`Scheduler.length_dequeueBatch`). Main statement about logs: two that list the same under each name list the
same altogether, in some order (`perm_of_under_eq`).
-/

namespace Router

/-! ## Logs -/

section Log

variable {α : Type}

/-- What is listed under a name, in order. -/
def under (name : String) (log : List (String × α)) : List α :=
  (log.filter (·.1 = name)).map Prod.snd

@[simp] theorem under_nil (name : String) : under name ([] : List (String × α)) = [] := rfl

@[simp] theorem under_append (name : String) (log log' : List (String × α)) :
    under name (log ++ log') = under name log ++ under name log' := by
  simp [under]

theorem under_cons (name : String) (e : String × α) (log : List (String × α)) :
    under name (e :: log) = (if e.1 = name then [e.2] else []) ++ under name log := by
  by_cases h : e.1 = name <;> simp [under, h]

theorem count_under [DecidableEq α] (e : String × α) (log : List (String × α)) :
    (under e.1 log).count e.2 = log.count e := by
  induction log with
  | nil => rfl
  | cons d rest ih =>
    obtain ⟨name, a⟩ := e
    obtain ⟨name', a'⟩ := d
    rw [under_cons, List.count_append, ih, List.count_cons]
    by_cases hname : name' = name <;> by_cases ha : a' = a <;> simp [hname, ha, Nat.add_comm]

/-- Logs that list the same under each name list the same. -/
theorem perm_of_under_eq [DecidableEq α] {log log' : List (String × α)} (h : ∀ name, under name log = under name log') :
    log.Perm log' := by
  refine List.perm_iff_count.2 fun e => ?_
  rw [← count_under, ← count_under, h]

end Log

namespace Scheduler

variable {s : Scheduler} {now : Nat} {p : Packet} {name : String}

/-! ## Packets under a name -/

theorem held_cons (q : ClassQueue) (rest : List ClassQueue) (name : String) :
    held (q :: rest) name = if q.name = name then q.packets else held rest name := by
  split
  · rename_i hname
    rw [← hname, held_cons_self]
  · rename_i hname
    exact held_cons_of_ne hname rest

/-- Only names and packets are asked for. -/
theorem held_map_append {f : ClassQueue → ClassQueue} {qs : List ClassQueue}
    (h : ∀ q ∈ qs, (f q).name = q.name ∧ (f q).packets = q.packets) (rest : List ClassQueue) (name : String) :
    held (qs.map f ++ rest) name = held (qs ++ rest) name := by
  induction qs with
  | nil => rfl
  | cons q qs ih =>
    obtain ⟨⟨hname, hpackets⟩, hqs⟩ := List.forall_mem_cons.1 h
    rw [List.map_cons, List.cons_append, List.cons_append, held_cons, held_cons, hname, hpackets, ih hqs]

/-- A queue among others holds its packets under its name, and the others hold what they do without it. -/
theorem held_middle {before : List ClassQueue} {q : ClassQueue} (h : ∀ r ∈ before, r.name ≠ q.name)
    (after : List ClassQueue) (name : String) :
    held (before ++ q :: after) name = if q.name = name then q.packets else held (before ++ after) name := by
  induction before with
  | nil => exact held_cons q after name
  | cons r before ih =>
    obtain ⟨hr, hbefore⟩ := List.forall_mem_cons.1 h
    rw [List.cons_append, List.cons_append, held_cons, held_cons, ih hbefore]
    by_cases hname : q.name = name
    · rw [if_neg (hname ▸ hr), if_pos hname, if_pos hname]
    · rw [if_neg hname, if_neg hname]

theorem Named.name_ne (h : s.Named) {before after : List ClassQueue} {q : ClassQueue}
    (hs : s.queues = before ++ q :: after) : ∀ r ∈ before, r.name ≠ q.name := fun _ hr hname =>
  ShapingState.name_ne_of_split (s := ⟨s, 0⟩) h hs (List.mem_append_left _ hr) hname.symm

theorem held_enqueue (h : s.Named) (hfree : s.Unlimited) (p : Packet) (name : String) :
    held (s.enqueue p).2.queues name =
      held s.queues name ++ if (s.enqueue p).1.className = name then [p] else [] := by
  obtain ⟨before, q, after, hs, -, -, ha, hs'⟩ := s.enqueue_queues p
  have hq : q ∈ s.queues := by simp [hs]
  have hbefore := h.name_ne hs
  have hname : (q.offer p).2.name = q.name := congrArg TrafficClass.name (q.offer_definition p)
  have hclass : (q.offer p).1.className = q.name := q.offer_className p
  have hpackets : (q.offer p).2.packets = q.packets ++ [p] := by rw [ClassQueue.offer_of_room (hfree q hq).isFull]
  rw [hs', hs, ha, hclass, held_middle (hname.symm ▸ hbefore), held_middle hbefore, hname, hpackets]
  split <;> simp

/-! ## Leaving -/

/-- The packet that leaves next, if any may, with the name of its class. -/
def next? (s : Scheduler) (now : Nat) : Option (String × Packet) :=
  (s.served? now).bind fun name => (s.dequeue now).1.map (name, ·)

/-- Up to `max` packets in the order they leave, each with the name of its class. -/
def departures (s : Scheduler) (now : Nat) : (max : Nat) → List (String × Packet)
  | 0 => []
  | max + 1 =>
    match s.next? now with
    | none => []
    | some e => e :: (s.dequeue now).2.departures now max

theorem map_snd_next? (s : Scheduler) (now : Nat) : (s.next? now).map Prod.snd = (s.dequeue now).1 := by
  rcases s.dequeue_cases now with ⟨-, hserved, hp, -⟩ | ⟨before, q, after, p, -, -, -, hserved, hp, -⟩ <;>
    simp [next?, hserved, hp]

theorem map_snd_departures (s : Scheduler) (now max : Nat) :
    (s.departures now max).map Prod.snd = (s.dequeueBatch now max).1 := by
  induction max generalizing s with
  | zero => rfl
  | succ max ih =>
    have hnext := s.map_snd_next? now
    rw [departures, dequeueBatch]
    cases hserve : s.dequeue now with
    | mk p? s' =>
      rw [hserve] at hnext
      cases he : s.next? now with
      | none =>
        rw [he] at hnext
        obtain rfl : none = p? := hnext
        rfl
      | some e =>
        rw [he] at hnext
        obtain rfl : some e.2 = p? := hnext
        exact congrArg (e.2 :: ·) (ih s')

/-- The oldest packet that is held under the name of the class leaves. -/
theorem held_dequeue (h : s.Named) (now : Nat) (name : String) :
    under name (s.next? now).toList ++ held (s.dequeue now).2.queues name = held s.queues name := by
  have hkept : ∀ q : ClassQueue, (q.take now).1 = none → (q.take now).2.name = q.name ∧
      (q.take now).2.packets = q.packets := by
    intro q hq
    have hpackets := q.take_packets now
    rw [hq] at hpackets
    exact ⟨q.name_take now, hpackets⟩
  rcases s.dequeue_cases now with ⟨hnone, hserved, hp, hs'⟩ | ⟨before, q, after, p, hs, hbefore, hq, hserved, hp, hs'⟩
  · have hmap := held_map_append (fun q hq => hkept q (hnone q hq)) [] name
    rw [List.append_nil, List.append_nil] at hmap
    simp [next?, hserved, hs', hmap]
  · have hothers := h.name_ne hs
    have hpackets := q.take_packets now
    rw [hq] at hpackets
    have hname : ∀ r ∈ before, r.name ≠ (q.take now).2.name := (q.name_take now).symm ▸ hothers
    rw [hs', held_map_append fun r hr => hkept r (hbefore r hr), held_middle hname, hs, held_middle hothers,
      q.name_take now, ← hpackets, next?, hserved, hp]
    rw [Option.bind_some, Option.map_some, Option.toList_some, under_cons, under_nil, List.append_nil]
    split <;> rfl

theorem held_departures (h : s.Named) (now max : Nat) (name : String) :
    under name (s.departures now max) ++ held (s.dequeueBatch now max).2.queues name = held s.queues name := by
  induction max generalizing s with
  | zero => rfl
  | succ max ih =>
    have hnext := s.map_snd_next? now
    have hheld := held_dequeue h now name
    have hnamed := h.of_classes (s.classes_dequeue now)
    rw [departures, dequeueBatch]
    cases hserve : s.dequeue now with
    | mk p? s' =>
      rw [hserve] at hnext hheld hnamed
      cases he : s.next? now with
      | none =>
        rw [he] at hnext hheld
        obtain rfl : none = p? := hnext
        exact hheld
      | some e =>
        rw [he] at hnext hheld
        obtain rfl : some e.2 = p? := hnext
        rw [← hheld, ← ih hnamed, ← List.append_assoc, ← under_append]
        rfl

theorem Unlimited.dequeueBatch (h : s.Unlimited) (now max : Nat) : (s.dequeueBatch now max).2.Unlimited := by
  induction max generalizing s with
  | zero => exact h
  | succ max ih =>
    have hdequeue := h.dequeue now
    rw [Scheduler.dequeueBatch]
    split
    · rename_i heq
      rw [heq] at hdequeue
      exact hdequeue
    · rename_i heq
      rw [heq] at hdequeue
      exact ih hdequeue

theorem Unlimited.fitted (h : s.Unlimited) : s.Fitted :=
  fun q hq => ⟨fun _ => (h q hq).bucket, fun hrate => absurd (h q hq).rate hrate⟩

theorem Unlimited.dequeueBatch_eq_take (h : s.Unlimited) (now max : Nat) :
    (s.dequeueBatch now max).1 = s.waiting.take max ∧ (s.dequeueBatch now max).2.waiting = s.waiting.drop max := by
  refine Scheduler.dequeueBatch_eq_take h.fitted (fun c hc => ?_) now max
  obtain ⟨q, hq, rfl⟩ := List.mem_map.1 hc
  exact (h q hq).rate

/-- Without limits a batch is as long as it may be. -/
theorem length_dequeueBatch (h : s.Unlimited) (now max : Nat) :
    (s.dequeueBatch now max).1.length = min max s.totalQueued := by
  rw [(h.dequeueBatch_eq_take now max).1, List.length_take, totalQueued_eq]

theorem totalQueued_dequeueBatch (h : s.Unlimited) (now max : Nat) :
    (s.dequeueBatch now max).2.totalQueued = s.totalQueued - max := by
  rw [totalQueued_eq, (h.dequeueBatch_eq_take now max).2, List.length_drop, totalQueued_eq]

end Scheduler

end Router
