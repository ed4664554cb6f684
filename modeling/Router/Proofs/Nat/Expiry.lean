import Mathlib.Order.Bounds.Basic
import Router.Proofs.Nat.History

/-!
# When an idle flow is forgotten

A direction ages with every packet that goes by it or by a direction whose peer it is, and takes its peer along when it
goes. As long as no two flows share a direction, this is one age for each flow: a direction goes exactly when the last
packet of its flow, either way, is too long ago, and both directions go together (`Paired`). A flow that was opened
over a tracked direction breaks this: the direction has a new peer, and the flow that had it before still names it.
Main statement: a direction goes by the last packet of its own flow exactly when no direction that names it was
passed last before that (`expires_by_flow_iff`). Otherwise a flow in use loses a direction
(`direction_in_use_expires`).
-/

namespace Router

/-! ## The last packet -/

namespace Passage

/-- Whether a packet went by a direction, or by one whose peer it is. -/
def about (x : FlowKey) (p : Passage) : Bool :=
  p.key = x || p.peer = x

/-- Whether a packet went by the flow of two directions, either way. -/
def within (x y : FlowKey) (p : Passage) : Bool :=
  (p.key = x && p.peer = y) || (p.key = y && p.peer = x)

/-- When the last packet of a kind went by. -/
def last? (past : List Passage) (kind : Passage → Bool) : Option Nat :=
  (past.find? kind).map Passage.time

variable {p : Passage} {past : List Passage} {kind : Passage → Bool} {a : Nat}

theorem last?_of_head (h : kind p = true) : last? (p :: past) kind = some p.time := by
  simp [last?, h]

theorem last?_of_not_head (h : kind p = false) : last? (p :: past) kind = last? past kind := by
  simp [last?, h]

theorem time_mem_of_last? (h : last? past kind = some a) : ∃ p ∈ past, kind p = true ∧ p.time = a := by
  obtain ⟨p, hp, rfl⟩ := Option.map_eq_some_iff.1 h
  exact ⟨p, List.mem_of_find?_eq_some hp, List.find?_some hp, rfl⟩

/-- A packet of the flow of a direction is about the direction. -/
theorem about_of_within {x y : FlowKey} (h : within x y p = true) : about x p = true := by
  simp only [within, about, Bool.or_eq_true, Bool.and_eq_true, decide_eq_true_eq] at h ⊢
  rcases h with ⟨h, -⟩ | ⟨-, h⟩
  · exact .inl h
  · exact .inr h

end Passage

namespace NatState

open Passage

variable {s : NatState} {e : NatEvent} {past : List Passage} {x y : FlowKey} {entry : Tracked}

/-- What stands at a direction after an event either was passed by it just now, or is as it was. -/
theorem get?_step (h : (s.step e).table.tracked.get? x = some entry) :
    (∃ p, s.passage? e = some p ∧ p.time = s.now ∧ about x p = true ∧ entry.lastSeen = s.now ∧
      (within x entry.peer p = true ∨ ∃ old, s.table.tracked.get? x = some old ∧ old.peer = entry.peer)) ∨
    (s.table.tracked.get? x = some entry ∧ ∀ p, s.passage? e = some p → about x p = false) := by
  cases s.change e with
  | touched k old hk tracked hp =>
    rw [tracked, NatTable.get?_touch] at h
    split at h
    · rename_i hx
      obtain ⟨was, hwas, rfl⟩ := Option.map_eq_some_iff.1 h
      refine .inl ⟨_, hp, rfl, ?_, rfl, .inr ⟨was, hwas, rfl⟩⟩
      rcases hx with h | h <;> simp [about, h]
    · rename_i hx
      refine .inr ⟨h, fun p hp' => ?_⟩
      obtain rfl := Option.some.inj (hp.symm.trans hp')
      obtain ⟨hk, hpeer⟩ := not_or.1 hx
      simp [about, Ne.symm hk, Ne.symm hpeer]
  | opened k u hk tracked hp =>
    rw [tracked, NatTable.get?_track] at h
    split at h
    · rename_i hx
      subst hx
      obtain rfl := Option.some.inj h
      exact .inl ⟨_, hp, rfl, by simp [about], rfl, .inl (by simp [within])⟩
    · rename_i hu
      split at h
      · rename_i hx
        subst hx
        obtain rfl := Option.some.inj h
        exact .inl ⟨_, hp, rfl, by simp [about], rfl, .inl (by simp [within])⟩
      · rename_i hx
        refine .inr ⟨h, fun p hp' => ?_⟩
        obtain rfl := Option.some.inj (hp.symm.trans hp')
        simp [about, Ne.symm hu, Ne.symm hx]
  | kept tracked hp =>
    refine .inr ⟨tracked ▸ h, fun p hp' => ?_⟩
    rw [hp] at hp'
    cases hp'
  | expired idle he =>
    subst he
    refine .inr ⟨?_, fun p hp => by cases hp⟩
    change (s.table.expire s.now idle).tracked.get? x = some entry at h
    rw [NatTable.get?_expire] at h
    split at h
    · cases h
    · exact h
  | flushed he => subst he; cases h

/-! ## Every history -/

/-- What is tracked agrees with the past: each direction was passed last at the time that stands with it, and its flow
was passed at all. -/
structure Recorded (s : NatState) (past : List Passage) : Prop where
  distinct : s.table.tracked.Distinct
  time_le : ∀ p ∈ past, p.time ≤ s.now
  seen : ∀ x entry, s.table.tracked.get? x = some entry → last? past (about x) = some entry.lastSeen
  own : ∀ x entry, s.table.tracked.get? x = some entry → ∃ a, last? past (within x entry.peer) = some a

theorem distinct_step (h : s.table.tracked.Distinct) (e : NatEvent) : (s.step e).table.tracked.Distinct := by
  cases s.change e with
  | touched k old hk tracked => rw [tracked]; exact (h.adjust _ _).adjust _ _
  | opened k u hk tracked => rw [tracked]; exact (h.insert _ _).insert _ _
  | kept tracked => rw [tracked]; exact h
  | expired idle he => subst he; exact h.filter _
  | flushed he => subst he; exact Assoc.distinct_nil

theorem time_of_passage? {p : Passage} (h : s.passage? e = some p) : p.time = s.now := by
  cases s.change e with
  | touched k old hk tracked hp => rw [hp] at h; cases h; rfl
  | opened k u hk tracked hp => rw [hp] at h; cases h; rfl
  | kept tracked hp => rw [hp] at h; cases h
  | expired idle he => subst he; cases h
  | flushed he => subst he; cases h

/-- The last packet of a kind after an event: the event itself, or the last one before. -/
theorem last?_passage? (s : NatState) (e : NatEvent) (past : List Passage) (kind : Passage → Bool) :
    (∃ p, s.passage? e = some p ∧ kind p = true ∧ last? ((s.passage? e).toList ++ past) kind = some s.now) ∨
    ((∀ p, s.passage? e = some p → kind p = false) ∧
      last? ((s.passage? e).toList ++ past) kind = last? past kind) := by
  cases hp : s.passage? e with
  | none => exact .inr ⟨by simp, rfl⟩
  | some p =>
    cases hk : kind p with
    | true => exact .inl ⟨p, rfl, hk, by rw [← time_of_passage? hp]; exact last?_of_head hk⟩
    | false => exact .inr ⟨fun _ hq => Option.some.inj hq ▸ hk, last?_of_not_head hk⟩

theorem Recorded.step (h : Recorded s past) (e : NatEvent) :
    Recorded (s.step e) ((s.passage? e).toList ++ past) where
  distinct := distinct_step h.distinct e
  time_le p hp := by
    refine Nat.le_trans ?_ (s.now_le_step e)
    rcases List.mem_append.1 hp with hp | hp
    · exact Nat.le_of_eq (time_of_passage? (Option.mem_toList.1 hp))
    · exact h.time_le p hp
  seen x entry hx := by
    rcases get?_step hx with ⟨p, hp, -, ha, hs, -⟩ | ⟨hold, ha⟩
    · rcases last?_passage? s e past (about x) with ⟨q, -, -, hl⟩ | ⟨hno, -⟩
      · rw [hl, hs]
      · rw [hno p hp] at ha; cases ha
    · rcases last?_passage? s e past (about x) with ⟨q, hq, hq', -⟩ | ⟨-, hl⟩
      · rw [ha q hq] at hq'; cases hq'
      · rw [hl]; exact h.seen x entry hold
  own x entry hx := by
    rcases last?_passage? s e past (within x entry.peer) with ⟨q, -, -, hl⟩ | ⟨hno, hl⟩
    · exact ⟨_, hl⟩
    · rw [hl]
      rcases get?_step hx with ⟨p, hp, -, -, -, hw | ⟨old, hold, hpeer⟩⟩ | ⟨hold, -⟩
      · rw [hno p hp] at hw; cases hw
      · rw [← hpeer]; exact h.own x old hold
      · exact h.own x entry hold

theorem recorded_start (now : Nat) : Recorded (start now) [] where
  distinct := Assoc.distinct_nil
  time_le := by simp
  seen _ _ h := by cases h
  own _ _ h := by cases h

theorem recorded_run (now : Nat) (events : List NatEvent) :
    Recorded ((start now).run events) ((start now).passages [] events) :=
  run_induction (fun _ _ e h => h.step e) (recorded_start now) events

/-! ## When a direction goes -/

/-- The times of the last packets that a direction ages by: its own, and those of the directions whose peer it is. -/
def agesBy (s : NatState) (past : List Passage) (x : FlowKey) : Set Nat :=
  {a | ∃ j f, s.table.tracked.get? j = some f ∧ (j = x ∨ f.peer = x) ∧ last? past (about j) = some a}

theorem Recorded.agesBy_le (h : Recorded s past) {a : Nat} (ha : a ∈ s.agesBy past x) : a ≤ s.now := by
  obtain ⟨j, f, -, -, hl⟩ := ha
  obtain ⟨p, hp, -, rfl⟩ := time_mem_of_last? hl
  exact h.time_le p hp

theorem Recorded.seen_mem_agesBy (h : Recorded s past) (hx : s.table.tracked.get? x = some entry) :
    entry.lastSeen ∈ s.agesBy past x :=
  ⟨x, entry, hx, .inl rfl, h.seen x entry hx⟩

/-- A tracked direction goes when one of the packets that it ages by is too long ago. -/
theorem Recorded.get?_expire_eq_none (h : Recorded s past) (hx : s.table.tracked.get? x = some entry) (idle : Nat) :
    (s.table.expire s.now idle).tracked.get? x = none ↔ ∃ a ∈ s.agesBy past x, idle < s.now - a := by
  have hstale : (s.table.expire s.now idle).tracked.get? x = none ↔ x ∈ s.table.stale s.now idle := by
    rw [NatTable.get?_expire, hx]
    split <;> simp [*]
  rw [hstale, NatTable.mem_stale h.distinct]
  constructor
  · rintro ⟨j, f, hj, hxj, hi⟩
    exact ⟨f.lastSeen, ⟨j, f, hj, hxj.imp Eq.symm Eq.symm, h.seen j f hj⟩, hi⟩
  · rintro ⟨a, ⟨j, f, hj, hxj, hl⟩, hi⟩
    rw [h.seen j f hj] at hl
    obtain rfl := Option.some.inj hl
    exact ⟨j, f, hj, hxj.imp Eq.symm Eq.symm, hi⟩

/-- Ages that are told apart by every limit are told apart by the earliest time. -/
theorem forall_idle_iff {times : Set Nat} {now own : Nat} (hne : times.Nonempty) (hle : ∀ a ∈ times, a ≤ now)
    (hown : own ≤ now) :
    (∀ idle, (∃ a ∈ times, idle < now - a) ↔ idle < now - own) ↔ IsLeast times own := by
  constructor
  · intro h
    have lower : own ∈ lowerBounds times := by
      intro a ha
      have hna : ¬ now - own < now - a := fun hlt => Nat.lt_irrefl _ ((h (now - own)).1 ⟨a, ha, hlt⟩)
      have := hle a ha
      omega
    refine ⟨?_, lower⟩
    -- a time that is due at the limit just below the age of `own` is not after `own`
    rcases Nat.eq_or_lt_of_le hown with heq | hlt
    · obtain ⟨a, ha⟩ := hne
      have := hle a ha
      have := lower ha
      rwa [show own = a by omega]
    · obtain ⟨a, ha, hi⟩ := (h (now - own - 1)).2 (by omega)
      have := lower ha
      rwa [show own = a by omega]
  · rintro ⟨hmem, lower⟩ idle
    refine ⟨?_, fun h => ⟨own, hmem, h⟩⟩
    rintro ⟨a, ha, hi⟩
    have := lower ha
    omega

/-- Whether a direction goes exactly when a time is longer ago than the limit, for every limit. -/
def expiresBy (s : NatState) (x : FlowKey) (time : Nat) : Prop :=
  ∀ idle, (s.table.expire s.now idle).tracked.get? x = none ↔ idle < s.now - time

theorem Recorded.expiresBy_iff (h : Recorded s past) (hx : s.table.tracked.get? x = some entry) {own : Nat}
    (hown : last? past (within x entry.peer) = some own) : s.expiresBy x own ↔ IsLeast (s.agesBy past x) own := by
  obtain ⟨p, hp, -, rfl⟩ := time_mem_of_last? hown
  have hne : (s.agesBy past x).Nonempty := ⟨_, h.seen_mem_agesBy hx⟩
  rw [← forall_idle_iff hne (fun a ha => h.agesBy_le ha) (h.time_le p hp)]
  exact forall_congr' fun idle => iff_congr (h.get?_expire_eq_none hx idle) Iff.rfl

/-! ## Flows that share no direction -/

/-- Whether an event opens a flow whose replies come by a direction that is tracked already. -/
def collides (s : NatState) (e : NatEvent) : Bool :=
  (s.opened? e).any fun f => f.2.reverse ≠ f.1 && s.table.tracks f.2.reverse

/-- Whether no event opens a flow over a tracked direction. -/
def collisionFree (s : NatState) : List NatEvent → Bool
  | [] => true
  | e :: rest => !s.collides e && (s.step e).collisionFree rest

theorem collides_eq_false {k u : FlowKey} (h : s.collides e = false) (ho : s.opened? e = some (k, u)) :
    u.reverse = k ∨ s.table.tracked.get? u.reverse = none := by
  simp only [collides, ho, Option.any_some, Bool.and_eq_false_iff, decide_eq_false_iff_not, ne_eq,
    Decidable.not_not] at h
  exact h.imp id NatTable.tracks_eq_false.1

/-- The directions stand in pairs, each as old as the other, whose peer it is. -/
def InPairs (m : Assoc FlowKey Tracked) : Prop :=
  ∀ x entry, m.get? x = some entry →
    ∃ other, m.get? entry.peer = some other ∧ other.peer = x ∧ other.lastSeen = entry.lastSeen

theorem InPairs.touch {m : Assoc FlowKey Tracked} {k : FlowKey} {old : Tracked} (h : InPairs m)
    (hk : m.get? k = some old) (now : Nat) : InPairs (NatTable.touch m k old.peer now) := by
  obtain ⟨back, hback, hpeer, -⟩ := h k old hk
  intro x entry hx
  rw [NatTable.get?_touch] at hx
  split at hx
  · rename_i hxk
    obtain ⟨was, hwas, rfl⟩ := Option.map_eq_some_iff.1 hx
    obtain ⟨other, hother, hox, -⟩ := h x was hwas
    -- both directions of the flow are touched
    have hin : was.peer = k ∨ was.peer = old.peer := by
      rcases hxk with rfl | rfl
      · rw [hk] at hwas
        cases hwas
        exact .inr rfl
      · rw [hback] at hwas
        cases hwas
        exact .inl hpeer
    exact ⟨{ other with lastSeen := now }, by simp [NatTable.get?_touch, hin, hother], hox, rfl⟩
  · rename_i hxk
    obtain ⟨other, hother, hox, hage⟩ := h x entry hx
    -- and no other direction
    have hout : ¬ (entry.peer = k ∨ entry.peer = old.peer) := by
      rintro (hp | hp)
      · rw [hp, hk] at hother
        cases hother
        exact hxk (.inr hox.symm)
      · rw [hp, hback] at hother
        cases hother
        exact hxk (.inl (hox.symm.trans hpeer))
    exact ⟨other, by simp [NatTable.get?_touch, hout, hother], hox, hage⟩

theorem InPairs.track {m : Assoc FlowKey Tracked} {k u : FlowKey} (h : InPairs m) (hk : m.get? k = none)
    (hu : u.reverse = k ∨ m.get? u.reverse = none) (now : Nat) : InPairs (NatTable.track m k u now) := by
  have hreply : m.get? u.reverse = none := by
    rcases hu with hu | hu
    · rw [hu]
      exact hk
    · exact hu
  intro x entry hx
  rw [NatTable.get?_track] at hx
  split at hx
  · rename_i hxu
    cases hx
    by_cases hku : k = u.reverse
    · exact ⟨⟨k.reverse, k, now⟩, by simp [NatTable.get?_track, hku], hku.trans hxu.symm, rfl⟩
    · exact ⟨⟨u, u.reverse, now⟩, by simp [NatTable.get?_track, hku], hxu.symm, rfl⟩
  · split at hx
    · rename_i hxk
      cases hx
      exact ⟨⟨k.reverse, k, now⟩, by simp [NatTable.get?_track], hxk.symm, rfl⟩
    · obtain ⟨other, hother, hox, hage⟩ := h x entry hx
      have hpk : entry.peer ≠ k := fun hp => by rw [hp, hk] at hother; cases hother
      have hpu : entry.peer ≠ u.reverse := fun hp => by rw [hp, hreply] at hother; cases hother
      exact ⟨other, by simp [NatTable.get?_track, hpk, hpu, hother], hox, hage⟩

/-- In pairs, what is stale is what is too old itself. -/
theorem InPairs.mem_stale {t : NatTable} (h : InPairs t.tracked) (hd : t.tracked.Distinct) {now idle : Nat}
    (hx : t.tracked.get? x = some entry) : x ∈ t.stale now idle ↔ idle < now - entry.lastSeen := by
  rw [NatTable.mem_stale hd]
  constructor
  · rintro ⟨j, f, hj, rfl | rfl, hi⟩
    · rw [hj] at hx
      cases hx
      exact hi
    · obtain ⟨other, hother, -, hage⟩ := h j f hj
      rw [hx] at hother
      cases hother
      rwa [hage]
  · exact fun hi => ⟨x, entry, hx, .inl rfl, hi⟩

theorem InPairs.expire {t : NatTable} (h : InPairs t.tracked) (hd : t.tracked.Distinct) (now idle : Nat) :
    InPairs (t.expire now idle).tracked := by
  intro x entry hx
  rw [NatTable.get?_expire] at hx
  split at hx
  · cases hx
  · rename_i hstays
    obtain ⟨other, hother, hox, hage⟩ := h x entry hx
    rw [h.mem_stale hd hx, ← hage, ← h.mem_stale hd hother] at hstays
    exact ⟨other, by rw [NatTable.get?_expire, if_neg hstays]; exact hother, hox, hage⟩

theorem InPairs.step (h : InPairs s.table.tracked) (hd : s.table.tracked.Distinct) (hc : s.collides e = false) :
    InPairs (s.step e).table.tracked := by
  cases s.change e with
  | touched k old hk tracked => rw [tracked]; exact h.touch hk s.now
  | opened k u hk tracked _ hopened =>
    rw [tracked]
    exact h.track (NatTable.opens?_eq_some.1 hk).1 (collides_eq_false hc hopened) s.now
  | kept tracked => rw [tracked]; exact h
  | expired idle he => subst he; exact h.expire hd s.now idle
  | flushed he =>
    subst he
    intro x entry hx
    cases hx

/-- In pairs, a packet about a tracked direction is one of its flow. -/
theorem InPairs.within_of_about {p : Passage} (h : InPairs s.table.tracked) (hc : s.collides e = false)
    (hp : s.passage? e = some p) (hx : s.table.tracked.get? x = some entry) (ha : about x p = true) :
    within x entry.peer p = true := by
  cases s.change e with
  | touched k old hk tracked hp' =>
    obtain rfl := Option.some.inj (hp.symm.trans hp')
    obtain ⟨back, hback, hpeer, -⟩ := h k old hk
    simp only [about, Bool.or_eq_true, decide_eq_true_eq] at ha
    rcases ha with rfl | rfl
    · rw [hk] at hx
      cases hx
      simp [within]
    · rw [hback] at hx
      cases hx
      simp [within, hpeer]
  | opened k u hk tracked hp' hopened =>
    obtain rfl := Option.some.inj (hp.symm.trans hp')
    have hfree := (NatTable.opens?_eq_some.1 hk).1
    simp only [about, Bool.or_eq_true, decide_eq_true_eq] at ha
    rcases ha with rfl | rfl
    · rw [hfree] at hx
      cases hx
    · rcases collides_eq_false hc hopened with hu | hu
      · rw [hu, hfree] at hx
        cases hx
      · rw [hu] at hx
        cases hx
  | kept tracked hp' => rw [hp'] at hp; cases hp
  | expired idle he => subst he; cases hp
  | flushed he => subst he; cases hp

/-- The directions stand in pairs, and each pair is as old as the last packet of its flow. -/
structure Paired (s : NatState) (past : List Passage) : Prop where
  inPairs : InPairs s.table.tracked
  seen : ∀ x entry, s.table.tracked.get? x = some entry → last? past (within x entry.peer) = some entry.lastSeen

/-- An event that opens no flow over a tracked direction keeps the pairs. -/
theorem Paired.step (h : Paired s past) (hd : s.table.tracked.Distinct) (hc : s.collides e = false) :
    Paired (s.step e) ((s.passage? e).toList ++ past) where
  inPairs := h.inPairs.step hd hc
  seen x entry hx := by
    rcases get?_step hx with ⟨p, hp, -, ha, hage, hw⟩ | ⟨hold, hother⟩
    · have hw : within x entry.peer p = true := by
        rcases hw with hw | ⟨old, hold, hpeer⟩
        · exact hw
        · rw [← hpeer]
          exact h.inPairs.within_of_about hc hp hold ha
      rcases last?_passage? s e past (within x entry.peer) with ⟨q, -, -, hl⟩ | ⟨hno, -⟩
      · rw [hl, hage]
      · rw [hno p hp] at hw
        cases hw
    · rcases last?_passage? s e past (within x entry.peer) with ⟨q, hq, hq', -⟩ | ⟨-, hl⟩
      · have := about_of_within hq'
        rw [hother q hq] at this
        cases this
      · rw [hl]
        exact h.seen x entry hold

theorem paired_start (now : Nat) : Paired (start now) [] where
  inPairs _ _ h := by cases h
  seen _ _ h := by cases h

theorem Paired.run {events : List NatEvent} (h : Paired s past) (hr : Recorded s past)
    (hc : s.collisionFree events = true) : Paired (s.run events) (s.passages past events) := by
  induction events generalizing s past with
  | nil => exact h
  | cons e rest ih =>
    simp only [collisionFree, Bool.and_eq_true, Bool.not_eq_true'] at hc
    exact ih (h.step hr.distinct hc.1) (hr.step e) hc.2

theorem Paired.agesBy_eq (h : Paired s past) (hr : Recorded s past) (hx : s.table.tracked.get? x = some entry) :
    s.agesBy past x = {entry.lastSeen} := by
  ext a
  constructor
  · rintro ⟨j, f, hj, rfl | hf, hl⟩
    · rw [hj] at hx
      cases hx
      rw [hr.seen j entry hj] at hl
      exact (Option.some.inj hl).symm
    · obtain ⟨other, hother, -, hage⟩ := h.inPairs j f hj
      rw [hf, hx] at hother
      cases hother
      rw [hr.seen j f hj, ← hage] at hl
      exact (Option.some.inj hl).symm
  · rintro rfl
    exact hr.seen_mem_agesBy hx

theorem Paired.expiresBy (h : Paired s past) (hr : Recorded s past) (hx : s.table.tracked.get? x = some entry) :
    s.expiresBy x entry.lastSeen := by
  rw [hr.expiresBy_iff hx (h.seen x entry hx), h.agesBy_eq hr hx]
  exact isLeast_singleton

/-! ## The age of a flow -/

/-- After every history from an empty table: the flow of a tracked direction was passed at some last time, and the
direction goes by that time exactly when it is the earliest of those that the direction ages by. If no flow was opened
over a tracked direction this is so for all of them, and the two directions of a flow go together. -/
theorem expires_by_flow_iff (now : Nat) (events : List NatEvent) :
    (∀ x entry, ((start now).run events).table.tracked.get? x = some entry →
      ∃ own, last? ((start now).passages [] events) (within x entry.peer) = some own ∧
        (((start now).run events).expiresBy x own ↔
          IsLeast (((start now).run events).agesBy ((start now).passages [] events) x) own)) ∧
    ((start now).collisionFree events = true →
      ∀ x entry, ((start now).run events).table.tracked.get? x = some entry →
        ∃ own, last? ((start now).passages [] events) (within x entry.peer) = some own ∧
          ((start now).run events).expiresBy x own ∧ ((start now).run events).expiresBy entry.peer own) := by
  have hr := recorded_run now events
  refine ⟨fun x entry hx => ?_, fun hc x entry hx => ?_⟩
  · obtain ⟨own, hown⟩ := hr.own x entry hx
    exact ⟨own, hown, hr.expiresBy_iff hx hown⟩
  · have h := (paired_start now).run (recorded_start now) hc
    obtain ⟨other, hother, -, hage⟩ := h.inPairs x entry hx
    refine ⟨entry.lastSeen, h.seen x entry hx, h.expiresBy hr hx, ?_⟩
    rw [← hage]
    exact h.expiresBy hr hother

/-- A host that is alone sends a packet and gets a reply. -/
def quietHistory : List NatEvent :=
  [.addRule oneSource, .packet (hostFlow 3).packet, .wait 50, .packet sharedFlow.reverse.packet, .wait 20]

/-- The reply counts for both directions. -/
theorem flow_ages_by_reply :
    (start 0).collisionFree quietHistory = true ∧
    ((start 0).run quietHistory).table.tracked.get? (hostFlow 3) = some ⟨sharedFlow, sharedFlow.reverse, 50⟩ ∧
    ((start 0).run quietHistory).expiresBy (hostFlow 3) 50 := by
  have hc : (start 0).collisionFree quietHistory = true := by decide
  have hx : ((start 0).run quietHistory).table.tracked.get? (hostFlow 3) =
      some ⟨sharedFlow, sharedFlow.reverse, 50⟩ := by decide
  obtain ⟨own, hown, hby, -⟩ := (expires_by_flow_iff 0 quietHistory).2 hc _ _ hx
  have hlast : last? ((start 0).passages [] quietHistory) (within (hostFlow 3) sharedFlow.reverse) = some 50 := by
    decide
  obtain rfl := Option.some.inj (hown.symm.trans hlast)
  exact ⟨hc, hx, hby⟩

/-- Two hosts behind one port send one packet each. -/
def sharedHistory : List NatEvent :=
  [.addRule oneSource, .packet (hostFlow 3).packet, .wait 50, .packet (hostFlow 4).packet, .wait 20]

/-- A direction of a flow that was passed a short time ago goes with one of another flow that was not. -/
theorem direction_in_use_expires :
    ¬ ∀ (now : Nat) (events : List NatEvent) (x : FlowKey) (entry : Tracked) (own : Nat),
      ((start now).run events).table.tracked.get? x = some entry →
      last? ((start now).passages [] events) (within x entry.peer) = some own →
      ((start now).run events).expiresBy x own := by
  intro h
  have hx : ((start 0).run sharedHistory).table.tracked.get? sharedFlow.reverse =
      some ⟨(hostFlow 4).reverse, hostFlow 4, 50⟩ := by decide
  have hby := h 0 sharedHistory _ _ 50 hx (by decide)
  have stays := (hby 60).1 (by decide)
  exact absurd stays (by decide)

end NatState

end Router
