import Router.Shaping

/-!
# A packet on its way into a queue

Offering a packet to a queue loses none: what is given up and what waits afterwards are together what waited before
and the packet (`offer_accepted`, `offer_refused`, together `filed_offer`). The scheduler offers a packet to one queue,
the first that matches it or else the default one, and leaves all others as they are (`enqueue_queues`). Hence a packet
that is accepted is the one new packet, at the end of one queue (`gained_enqueue`).
-/

namespace Router

/-! ## One queue -/

namespace ClassQueue

variable {q : ClassQueue} {p : Packet}

theorem offer_of_room (h : q.isFull = false) :
    q.offer p = (⟨true, q.definition.name, none⟩,
      { q with packets := q.packets ++ [p], enqueued := q.enqueued + 1 }) := by
  simp [offer, h]

theorem offer_of_tail (h : q.isFull = true) (hp : q.definition.dropPolicy = .tail) :
    q.offer p = (⟨false, q.definition.name, some p⟩, { q with dropped := q.dropped + 1 }) := by
  simp [offer, h, hp]

theorem offer_of_head (h : q.isFull = true) (hp : q.definition.dropPolicy = .head) :
    q.offer p = (⟨true, q.definition.name, q.packets.head?⟩,
      { q with packets := q.packets.tail ++ [p], enqueued := q.enqueued + 1, dropped := q.dropped + 1 }) := by
  simp [offer, h, hp]

/-- A queue has room, or is full under one of the policies. -/
theorem full_cases (q : ClassQueue) :
    q.isFull = false ∨ (q.isFull = true ∧ q.definition.dropPolicy = .tail) ∨
      (q.isFull = true ∧ q.definition.dropPolicy = .head) := by
  cases q.isFull <;> cases q.definition.dropPolicy <;> simp

@[simp] theorem offer_className (q : ClassQueue) (p : Packet) : (q.offer p).1.className = q.definition.name := by
  rcases q.full_cases with h | ⟨h, hp⟩ | ⟨h, hp⟩
  · rw [offer_of_room h]
  · rw [offer_of_tail h hp]
  · rw [offer_of_head h hp]

@[simp] theorem offer_definition (q : ClassQueue) (p : Packet) : (q.offer p).2.definition = q.definition := by
  rcases q.full_cases with h | ⟨h, hp⟩ | ⟨h, hp⟩
  · rw [offer_of_room h]
  · rw [offer_of_tail h hp]
  · rw [offer_of_head h hp]

/-- A packet that is accepted waits last; what is given up for it waited first. -/
theorem offer_accepted (ha : (q.offer p).1.accepted = true) :
    ∃ kept, (q.offer p).2.packets = kept ++ [p] ∧ (q.offer p).1.discarded.toList ++ kept = q.packets := by
  rcases q.full_cases with h | ⟨h, hp⟩ | ⟨h, hp⟩
  · rw [offer_of_room h]
    exact ⟨q.packets, rfl, rfl⟩
  · rw [offer_of_tail h hp] at ha
    cases ha
  · rw [offer_of_head h hp]
    exact ⟨q.packets.tail, rfl, by cases q.packets <;> rfl⟩

/-- A packet that is refused is the one given up. -/
theorem offer_refused (ha : (q.offer p).1.accepted = false) :
    (q.offer p).1.discarded = some p ∧ (q.offer p).2.packets = q.packets := by
  rcases q.full_cases with h | ⟨h, hp⟩ | ⟨h, hp⟩
  · rw [offer_of_room h] at ha
    cases ha
  · rw [offer_of_tail h hp]
    exact ⟨rfl, rfl⟩
  · rw [offer_of_head h hp] at ha
    cases ha

/-- A packet that came to a queue waits last in it, behind what the queue keeps, what is given up for it having waited
first; or it is the one given up, and those that wait are as before. -/
def Filed (q : ClassQueue) (p : Packet) (a : Admission) (q' : ClassQueue) : Prop :=
  (a.accepted = true ∧ ∃ kept, q'.packets = kept ++ [p] ∧ a.discarded.toList ++ kept = q.packets) ∨
    (a.accepted = false ∧ a.discarded = some p ∧ q'.packets = q.packets)

theorem filed_offer (q : ClassQueue) (p : Packet) : q.Filed p (q.offer p).1 (q.offer p).2 := by
  cases ha : (q.offer p).1.accepted with
  | true => exact .inl ⟨ha, offer_accepted ha⟩
  | false => exact .inr ⟨ha, offer_refused ha⟩

end ClassQueue

/-! ## The queues of a scheduler -/

namespace Scheduler

variable {p : Packet}

theorem offerFirst?_eq_some {qs qs' : List ClassQueue} {a : Admission} (h : offerFirst? p qs = some (a, qs')) :
    ∃ before q after, qs = before ++ q :: after ∧ (∀ r ∈ before, r.definition.isMatch p = false) ∧
      q.definition.isMatch p = true ∧ a = (q.offer p).1 ∧ qs' = before ++ (q.offer p).2 :: after := by
  induction qs generalizing qs' with
  | nil => cases h
  | cons q rest ih =>
    rw [offerFirst?] at h
    split at h
    · rename_i hm
      cases h
      exact ⟨[], q, rest, rfl, by simp, hm, rfl, rfl⟩
    · rename_i hm
      obtain ⟨⟨a', rest'⟩, hr, he⟩ := Option.map_eq_some_iff.1 h
      cases he
      obtain ⟨before, r, after, rfl, hbefore, hr', ha, rfl⟩ := ih hr
      refine ⟨q :: before, r, after, rfl, ?_, hr', ha, rfl⟩
      intro r' hr'
      rcases List.mem_cons.1 hr' with rfl | hr'
      · simpa using hm
      · exact hbefore r' hr'

theorem offerFirst?_eq_none {qs : List ClassQueue} (h : offerFirst? p qs = none) :
    ∀ q ∈ qs, q.definition.isMatch p = false := by
  induction qs with
  | nil => simp
  | cons q rest ih =>
    rw [offerFirst?] at h
    split at h
    · cases h
    · rename_i hm
      intro r hr
      rcases List.mem_cons.1 hr with rfl | hr
      · simpa using hm
      · exact ih (Option.map_eq_none_iff.1 h) r hr

/-- A packet is offered to one queue: none before it takes the packet, and it does, or it is the default one. -/
theorem enqueue_queues (s : Scheduler) (p : Packet) :
    ∃ before q after, s.queues = before ++ q :: after ∧ (∀ r ∈ before, r.definition.isMatch p = false) ∧
      (q.definition.isMatch p = true ∨ after = []) ∧ (s.enqueue p).1 = (q.offer p).1 ∧
      (s.enqueue p).2.queues = before ++ (q.offer p).2 :: after := by
  cases h : offerFirst? p s.ranked with
  | some r =>
    obtain ⟨a, ranked⟩ := r
    obtain ⟨before, q, after, hranked, hbefore, hq, rfl, rfl⟩ := offerFirst?_eq_some h
    exact ⟨before, q, after ++ [s.fallback], by simp [queues, hranked], hbefore, .inl hq, by simp [enqueue, h],
      by simp [enqueue, h, queues]⟩
  | none =>
    exact ⟨s.ranked, s.fallback, [], rfl, offerFirst?_eq_none h, .inr rfl, by simp [enqueue, h],
      by simp [enqueue, h, queues]⟩

/-- From one scheduler to the other a packet came to the end of a queue of a name. What waited there may have lost
some of the oldest; nothing else changed. -/
def Gained (s s' : Scheduler) (name : String) (p : Packet) : Prop :=
  ∃ before old new after kept, s.queues = before ++ old :: after ∧ s'.queues = before ++ new :: after ∧
    new.definition = old.definition ∧ new.definition.name = name ∧
    new.packets = kept ++ [p] ∧ kept <:+ old.packets

theorem gained_enqueue {s : Scheduler} (h : (s.enqueue p).1.accepted = true) :
    s.Gained (s.enqueue p).2 (s.enqueue p).1.className p := by
  obtain ⟨before, q, after, hs, -, -, ha, hs'⟩ := s.enqueue_queues p
  rw [ha] at h ⊢
  obtain ⟨kept, hnew, hold⟩ := ClassQueue.offer_accepted h
  exact ⟨before, q, (q.offer p).2, after, kept, hs, hs', by simp, by simp, hnew, ⟨_, hold⟩⟩

end Scheduler

end Router
