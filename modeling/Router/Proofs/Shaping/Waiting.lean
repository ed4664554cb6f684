import Router.Proofs.Shaping.History

/-!
# The packets that wait

Every change of a scheduler keeps the packets together: those that wait afterwards and those that leave or are given up
are those that waited before and the one that came, each as often (`waiting_enqueue`, `waiting_dequeueBatch`,
`waiting_add`, `waiting_remove?`, `waiting_update?`). A new set of classes does so too where no two classes have one
name (`waiting_replace`).
-/

namespace Router

/-! ## One queue -/

namespace ClassQueue

/-- What is given up for a packet and what waits afterwards are the packet and what waited before. -/
theorem offer_perm (q : ClassQueue) (p : Packet) :
    ((q.offer p).1.discarded.toList ++ (q.offer p).2.packets).Perm (p :: q.packets) := by
  cases ha : (q.offer p).1.accepted with
  | true =>
    obtain ⟨kept, hnew, hold⟩ := offer_accepted ha
    rw [hnew, ← hold, ← List.append_assoc]
    exact List.perm_append_singleton p _
  | false =>
    obtain ⟨hdiscarded, hpackets⟩ := offer_refused ha
    rw [hdiscarded, hpackets]
    exact .refl _

theorem take_packets (q : ClassQueue) (now : Nat) : (q.take now).1.toList ++ (q.take now).2.packets = q.packets := by
  unfold take
  split
  · rfl
  · rename_i heq _
    exact heq.symm
  · rename_i heq _
    dsimp only
    split
    · exact heq.symm
    · rfl

end ClassQueue

/-! ## All queues -/

namespace Scheduler

variable {s s' : Scheduler} {now : Nat} {name : String} {c : TrafficClass} {gone : List Packet}

/-- The packets that wait, queue by queue. -/
def waiting (s : Scheduler) : List Packet :=
  s.queues.flatMap ClassQueue.packets

theorem waiting_eq (s : Scheduler) : s.waiting = s.ranked.flatMap ClassQueue.packets ++ s.fallback.packets := by
  simp [waiting, queues]

theorem totalQueued_eq (s : Scheduler) : s.totalQueued = s.waiting.length := by
  have hfold : ∀ (qs : List ClassQueue) (n : Nat),
      qs.foldl (fun n q => n + q.packets.length) n = n + (qs.flatMap ClassQueue.packets).length := by
    intro qs
    induction qs with
    | nil => exact fun n => rfl
    | cons q rest ih =>
      intro n
      rw [List.foldl_cons, ih, List.flatMap_cons, List.length_append, Nat.add_assoc]
  rw [totalQueued, hfold, Nat.zero_add, waiting]

theorem totalQueued_eq_zero_iff (s : Scheduler) : s.totalQueued = 0 ↔ s.waiting = [] := by
  rw [totalQueued_eq, List.length_eq_zero_iff]

/-! ## Packets in and out -/

/-- An exchange in the middle of a list is one of the whole list. -/
theorem perm_exchange {came gone old new : List Packet} (h : (gone ++ new).Perm (came ++ old))
    (before after : List Packet) :
    (gone ++ (before ++ (new ++ after))).Perm (came ++ (before ++ (old ++ after))) := by
  refine (List.perm_append_comm_assoc gone before _).trans ?_
  refine .trans ?_ (List.perm_append_comm_assoc before came _)
  rw [← List.append_assoc gone, ← List.append_assoc came]
  exact (h.append_right after).append_left before

theorem waiting_enqueue (s : Scheduler) (p : Packet) :
    ((s.enqueue p).1.discarded.toList ++ (s.enqueue p).2.waiting).Perm (p :: s.waiting) := by
  obtain ⟨before, q, after, hs, -, -, ha, hs'⟩ := s.enqueue_queues p
  rw [ha, waiting, hs', waiting, hs]
  simp only [List.flatMap_append, List.flatMap_cons]
  have hoffer : (_ ++ (q.offer p).2.packets).Perm ([p] ++ q.packets) := q.offer_perm p
  exact perm_exchange hoffer _ _

theorem takeFirst_perm (now : Nat) (qs : List ClassQueue) :
    ((takeFirst now qs).1.toList ++ (takeFirst now qs).2.flatMap ClassQueue.packets).Perm
      (qs.flatMap ClassQueue.packets) := by
  induction qs with
  | nil => exact .refl _
  | cons q rest ih =>
    have hq := q.take_packets now
    rw [List.flatMap_cons, ← hq, takeFirst]
    split
    · rename_i p q' heq
      rw [heq, List.flatMap_cons, List.append_assoc]
    · rename_i q' heq
      rw [heq]
      dsimp only
      rw [List.flatMap_cons]
      exact (List.perm_append_comm_assoc _ _ _).trans (ih.append_left q'.packets)

theorem waiting_dequeue (s : Scheduler) (now : Nat) :
    ((s.dequeue now).1.toList ++ (s.dequeue now).2.waiting).Perm s.waiting := by
  have hranked := takeFirst_perm now s.ranked
  have hlast := s.fallback.take_packets now
  rw [waiting_eq s, dequeue]
  split
  · rename_i p ranked heq
    rw [heq] at hranked
    rw [waiting_eq]
    exact hranked.append_right s.fallback.packets
  · rename_i ranked heq
    rw [heq] at hranked
    dsimp only at hranked ⊢
    rw [waiting_eq, ← hlast]
    refine (List.perm_append_comm_assoc _ _ _).trans ?_
    exact hranked.append_right _

theorem waiting_dequeueBatch (s : Scheduler) (now max : Nat) :
    ((s.dequeueBatch now max).1 ++ (s.dequeueBatch now max).2.waiting).Perm s.waiting := by
  induction max generalizing s with
  | zero => exact .refl _
  | succ max ih =>
    have hs := s.waiting_dequeue now
    rw [dequeueBatch]
    split
    · rename_i s' heq
      rw [heq] at hs
      exact hs
    · rename_i p s' heq
      rw [heq] at hs
      exact ((ih s').cons p).trans hs

/-! ## Changing the classes -/

theorem packets_rank (qs : List ClassQueue) :
    ((rank qs).flatMap ClassQueue.packets).Perm (qs.flatMap ClassQueue.packets) :=
  (Ranking.rank_perm _ qs).flatMap_right ClassQueue.packets

theorem waiting_add (ha : s.add now c = .ok s') : s'.waiting.Perm s.waiting := by
  unfold Scheduler.add at ha
  split at ha
  · cases ha
  · cases ha
    rw [waiting_eq, waiting_eq]
    have hranked := packets_rank (s.ranked ++ [ClassQueue.new c now])
    rw [List.flatMap_append, List.flatMap_singleton, ClassQueue.new_packets, List.append_nil] at hranked
    exact hranked.append_right s.fallback.packets

theorem waiting_remove? (hr : s.remove? name = some (s', gone)) : (gone ++ s'.waiting).Perm s.waiting := by
  unfold Scheduler.remove? at hr
  split at hr
  · cases hr
  · obtain ⟨q, hq, he⟩ := Option.map_eq_some_iff.1 hr
    cases he
    obtain ⟨hname, before, after, hranked, hbefore⟩ := List.find?_eq_some_iff_append.1 hq
    have hother : ∀ r ∈ before, ¬ decide (r.definition.name = name) = true := fun r hr => by simpa using hbefore r hr
    have herase : s.ranked.eraseP (·.definition.name = name) = before ++ after := by
      rw [hranked, List.eraseP_append_right _ hother, List.eraseP_cons_of_pos (by exact hname)]
    rw [waiting_eq, waiting_eq, herase, hranked]
    simp only [List.flatMap_append, List.flatMap_cons, List.append_assoc]
    exact List.perm_append_comm_assoc _ _ _

theorem waiting_update? (hu : s.update? now c = some s') : s'.waiting.Perm s.waiting := by
  unfold Scheduler.update? at hu
  split at hu
  · cases hu
    rw [waiting_eq, waiting_eq]
    exact .refl _
  · split at hu
    · cases hu
      rw [waiting_eq, waiting_eq]
      refine ((packets_rank _).trans (.of_eq ?_)).append_right _
      rw [List.flatMap_map]
      congr 1
      funext q
      split
      · exact q.redefine_packets c now
      · rfl
    · cases hu

/-- The packets under a name. -/
def held (qs : List ClassQueue) (name : String) : List Packet :=
  ((qs.find? (·.definition.name = name)).map ClassQueue.packets).getD []

theorem held_cons_self (q : ClassQueue) (rest : List ClassQueue) : held (q :: rest) q.name = q.packets := by
  simp [held, ClassQueue.name]

theorem held_cons_of_ne {q : ClassQueue} (h : q.name ≠ name) (rest : List ClassQueue) :
    held (q :: rest) name = held rest name := by
  have hq : ¬ q.definition.name = name := h
  simp [held, hq]

theorem held_of_not_mem {qs : List ClassQueue} (h : name ∉ qs.map ClassQueue.name) : held qs name = [] := by
  have hfind : qs.find? (·.definition.name = name) = none := by
    refine List.find?_eq_none.2 fun q hq hname => h (List.mem_map.2 ⟨q, hq, ?_⟩)
    exact of_decide_eq_true hname
  rw [held, hfind]
  rfl

theorem installed_packets (s : Scheduler) (now : Nat) (c : TrafficClass) :
    (s.installed now c).packets = held s.ranked c.name := by
  unfold installed held
  split <;> rename_i heq <;> rw [heq] <;> rfl

theorem flatMap_held_cons {q : ClassQueue} {names : List String} (h : q.name ∉ names) (rest : List ClassQueue) :
    names.flatMap (held (q :: rest)) = names.flatMap (held rest) := by
  rw [List.flatMap_def, List.flatMap_def]
  refine congrArg List.flatten (List.map_congr_left fun n hn => held_cons_of_ne ?_ rest)
  rintro rfl
  exact h hn

/-- Queues of distinct names fall into those of some names and the others. -/
theorem partition_perm {names : List String} (hnames : names.Nodup) {qs : List ClassQueue}
    (hqs : (qs.map ClassQueue.name).Nodup) :
    ((qs.filter fun q => q.name ∉ names).flatMap ClassQueue.packets ++ names.flatMap (held qs)).Perm
      (qs.flatMap ClassQueue.packets) := by
  induction qs with
  | nil =>
    have hnone : names.flatMap (held []) = [] := List.flatMap_eq_nil_iff.2 fun _ _ => rfl
    rw [hnone]
    exact .refl _
  | cons q rest ih =>
    obtain ⟨hq, hrest⟩ := List.nodup_cons.1 hqs
    refine .trans ?_ ((ih hrest).append_left q.packets)
    by_cases hm : q.name ∈ names
    · -- The queue is the one that its name stands for, and no later queue has the name.
      obtain ⟨before, after, rfl⟩ := List.append_of_mem hm
      obtain ⟨-, hafter, hbefore⟩ := List.nodup_append.1 hnames
      have hb : q.name ∉ before := fun h => hbefore _ h _ List.mem_cons_self rfl
      have ha : q.name ∉ after := (List.nodup_cons.1 hafter).1
      rw [List.filter_cons_of_neg (by simp)]
      simp only [List.flatMap_append, List.flatMap_cons, flatMap_held_cons hb, flatMap_held_cons ha, held_cons_self,
        held_of_not_mem hq, List.nil_append]
      refine .trans ?_ (List.perm_append_comm_assoc _ _ _)
      exact (List.perm_append_comm_assoc _ _ _).append_left _
    · rw [List.filter_cons_of_pos (by simpa using hm), flatMap_held_cons hm, List.flatMap_cons, List.append_assoc]

theorem mem_names_firstByName (classes : List TrafficClass) (h : name ≠ TrafficClass.defaultName) :
    name ∈ (firstByName classes).map TrafficClass.name ↔ name ∈ otherNames classes := by
  constructor
  · intro hm
    obtain ⟨c, hc, rfl⟩ := List.mem_map.1 hm
    exact List.mem_map.2 ⟨c, List.mem_filter.2 ⟨hc, by simpa [TrafficClass.isDefault] using h⟩, rfl⟩
  · exact fun hm => (List.filter_sublist.map TrafficClass.name).subset hm

/-- The queues given up for a new set of classes are those whose name is not in it. -/
theorem replace_snd (h : s.Named) (now : Nat) (classes : List TrafficClass) :
    (s.replace now classes).2 =
      (s.ranked.filter fun q => q.name ∉ otherNames classes).flatMap ClassQueue.packets := by
  have hfilter : s.ranked.filter (fun q => (firstByName classes).all (·.name ≠ q.definition.name)) =
      s.ranked.filter fun q => q.name ∉ otherNames classes := by
    refine List.filter_congr fun q hq => ?_
    have hname : q.name ≠ TrafficClass.defaultName := fun he => h.others (he ▸ List.mem_map_of_mem hq)
    rw [Bool.eq_iff_iff, decide_eq_true_iff, ← mem_names_firstByName classes hname]
    simp [ClassQueue.name]
  rw [← hfilter]
  rfl

/-- Each queue stays under its name or is given up. -/
theorem waiting_replace (h : s.Named) (now : Nat) (classes : List TrafficClass) :
    ((s.replace now classes).2 ++ (s.replace now classes).1.waiting).Perm s.waiting := by
  have hfallback : (s.replace now classes).1.fallback.packets = s.fallback.packets := by
    obtain he | ⟨c, -, he⟩ := s.replace_fallback now classes
    · rw [he]
    · rw [he]
      exact s.fallback.redefine_packets c now
  have hranked : ((s.replace now classes).1.ranked.flatMap ClassQueue.packets).Perm
      ((otherNames classes).flatMap (held s.ranked)) := by
    rw [replace_ranked]
    refine (packets_rank _).trans (.of_eq ?_)
    simp only [otherNames, List.flatMap_map, installed_packets]
  rw [waiting_eq, waiting_eq, hfallback, replace_snd h, ← List.append_assoc]
  exact ((hranked.append_left _).trans (partition_perm (nodup_otherNames classes) h.distinct)).append_right _

end Scheduler

end Router
