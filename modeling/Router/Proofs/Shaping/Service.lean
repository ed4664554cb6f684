import Mathlib.Data.List.Forall2
import Router.Proofs.Shaping.Unlimited

/-!
# Serving the classes

In every state of a scheduler a class with a rate has a bucket, and no other class has one (`ClassQueue.Fitted`). So a
queue is empty, or its bucket refuses the oldest packet, or that packet may leave (`ClassQueue.Fitted.cases`). The first
queue that a packet may leave is served (`dequeue_of_leavesAt`), whatever the buckets in front of it refuse, and the
queues behind a class without a rate are not asked as long as it has a packet (`dequeue_behind`). Where no class
has a rate, a batch is the front of all the queues one after the other (`dequeueBatch_eq_take`). Main statement:
`servesInOrder_run`.
-/

namespace Router

/-! ## One queue -/

namespace ClassQueue

variable {q : ClassQueue} {now : Nat} {p : Packet}

/-- A class with a rate has a bucket, and no other class has one. -/
structure Fitted (q : ClassQueue) : Prop where
  metered : q.Metered
  limited : q.definition.rateKbps ≠ 0 → ∃ bucket, q.bucket = some bucket

/-- The oldest packet may leave: the class has no rate, or its bucket pays for the packet. -/
def Eligible (q : ClassQueue) (now : Nat) : Prop :=
  ∃ p rest, q.packets = p :: rest ∧
    (q.definition.rateKbps = 0 ∨ ∃ bucket, q.bucket = some bucket ∧ (bucket.take p.length now).1 = true)

/-- The class has a rate, and its bucket does not pay for the oldest packet. -/
def Refused (q : ClassQueue) (now : Nat) : Prop :=
  q.definition.rateKbps ≠ 0 ∧
    ∃ p rest bucket, q.packets = p :: rest ∧ q.bucket = some bucket ∧ (bucket.take p.length now).1 = false

/-- All but the tokens is as before. -/
def Retains (q q' : ClassQueue) : Prop :=
  ∃ bucket, q' = { q with bucket }

/-- A packet was taken from the front, and all but that and the tokens is as before. -/
def Loses (q : ClassQueue) (p : Packet) (q' : ClassQueue) : Prop :=
  ∃ rest bucket, q.packets = p :: rest ∧ q' = { q with packets := rest, bucket, dequeued := q.dequeued + 1 }

theorem bucketFor_of_limited {c : TrafficClass} (h : c.rateKbps ≠ 0) (now : Nat) :
    bucketFor c now = some (.full c.rateKbps now) :=
  if_neg h

theorem offer_bucket (q : ClassQueue) (p : Packet) : (q.offer p).2.bucket = q.bucket := by
  rcases q.full_cases with h | ⟨h, hp⟩ | ⟨h, hp⟩
  · rw [offer_of_room h]
  · rw [offer_of_tail h hp]
  · rw [offer_of_head h hp]

theorem isSome_bucket_take (q : ClassQueue) (now : Nat) : (q.take now).2.bucket.isSome = q.bucket.isSome := by
  unfold take
  split
  · rfl
  · rfl
  · rename_i hbucket
    rw [hbucket]
    dsimp only
    split <;> rfl

theorem kept_fitted : ShapingState.Kept Fitted where
  new c now := ⟨kept_metered.new c now, fun h => ⟨_, bucketFor_of_limited h now⟩⟩
  redefine q c now h := by
    refine ⟨kept_metered.redefine q c now h.metered, fun hrate => ?_⟩
    have hrate : c.rateKbps ≠ 0 := hrate
    rw [redefine]
    dsimp only
    split
    · rename_i hsame
      exact h.limited (hsame ▸ hrate)
    · exact ⟨_, bucketFor_of_limited hrate now⟩
  offer q p h := by
    refine ⟨kept_metered.offer q p h.metered, ?_⟩
    rw [offer_definition, offer_bucket]
    exact h.limited
  take q now h := by
    refine ⟨kept_metered.take q now h.metered, fun hrate => ?_⟩
    rw [q.take_definition now] at hrate
    rw [← Option.isSome_iff_exists, isSome_bucket_take, Option.isSome_iff_exists]
    exact h.limited hrate

theorem Fitted.cases (h : q.Fitted) (now : Nat) : q.packets = [] ∨ q.Refused now ∨ q.Eligible now := by
  cases hp : q.packets with
  | nil => exact .inl rfl
  | cons p rest =>
    by_cases hrate : q.definition.rateKbps = 0
    · exact .inr (.inr ⟨p, rest, hp, .inl hrate⟩)
    · obtain ⟨bucket, hb⟩ := h.limited hrate
      cases hgrant : (bucket.take p.length now).1 with
      | true => exact .inr (.inr ⟨p, rest, hp, .inr ⟨bucket, hb, hgrant⟩⟩)
      | false => exact .inr (.inl ⟨hrate, p, rest, bucket, hp, hb, hgrant⟩)

theorem take_of_nil (h : q.packets = []) (now : Nat) : q.take now = (none, q) := by
  simp [take, h]

theorem take_of_unmetered {rest : List Packet} (hp : q.packets = p :: rest) (hb : q.bucket = none) (now : Nat) :
    q.take now = (some p, { q with packets := rest, dequeued := q.dequeued + 1 }) := by
  simp [take, hp, hb]

theorem take_of_bucket {rest : List Packet} {bucket : Bucket} (hp : q.packets = p :: rest)
    (hb : q.bucket = some bucket) (now : Nat) :
    q.take now =
      if (bucket.take p.length now).1 then
        (some p, { q with
          packets := rest, bucket := some (bucket.take p.length now).2, dequeued := q.dequeued + 1 })
      else (none, { q with bucket := some (bucket.take p.length now).2 }) := by
  simp [take, hp, hb]

theorem Refused.take (h : q.Refused now) : (q.take now).1 = none ∧ q.Retains (q.take now).2 := by
  obtain ⟨-, p, rest, bucket, hp, hb, hrefused⟩ := h
  rw [take_of_bucket hp hb, if_neg (by rw [hrefused]; exact Bool.false_ne_true)]
  exact ⟨rfl, _, rfl⟩

theorem Eligible.take (hf : q.Fitted) (h : q.Eligible now) :
    (q.take now).1 = q.packets.head? ∧ ∃ p, (q.take now).1 = some p ∧ q.Loses p (q.take now).2 := by
  obtain ⟨p, rest, hp, hrate | ⟨bucket, hb, hgranted⟩⟩ := h
  · rw [take_of_unmetered hp (hf.metered hrate), hp]
    exact ⟨rfl, p, rfl, rest, _, hp, rfl⟩
  · rw [take_of_bucket hp hb, if_pos hgranted, hp]
    exact ⟨rfl, p, rfl, rest, _, hp, rfl⟩

theorem Eligible.ne_nil (h : q.Eligible now) : q.packets ≠ [] := by
  obtain ⟨p, rest, hp, -⟩ := h
  rw [hp]
  exact List.cons_ne_nil p rest

theorem Fitted.take_eq_none_iff (hf : q.Fitted) (now : Nat) :
    (q.take now).1 = none ↔ (q.packets ≠ [] → q.Refused now) := by
  rcases hf.cases now with hnil | hrefused | heligible
  · rw [take_of_nil hnil]
    exact iff_of_true rfl fun hne => absurd hnil hne
  · exact iff_of_true hrefused.take.1 fun _ => hrefused
  · obtain ⟨-, p, hp, -⟩ := heligible.take hf
    refine iff_of_false (by rw [hp]; exact Option.some_ne_none p) fun h => ?_
    rw [(h heligible.ne_nil).take.1] at hp
    cases hp

theorem Fitted.take_eq_some_iff (hf : q.Fitted) (now : Nat) :
    (q.take now).1 = some p ↔ q.Eligible now ∧ q.packets.head? = some p := by
  constructor
  · intro hp
    rcases hf.cases now with hnil | hrefused | heligible
    · rw [take_of_nil hnil] at hp
      cases hp
    · rw [hrefused.take.1] at hp
      cases hp
    · exact ⟨heligible, (heligible.take hf).1.symm.trans hp⟩
  · rintro ⟨heligible, hp⟩
    exact (heligible.take hf).1.trans hp

theorem Fitted.not_eligible_iff (hf : q.Fitted) (now : Nat) : ¬ q.Eligible now ↔ (q.take now).1 = none := by
  constructor
  · intro h
    cases hp : (q.take now).1 with
    | none => rfl
    | some p => exact absurd ((hf.take_eq_some_iff now).1 hp).1 h
  · intro hnone heligible
    obtain ⟨-, p, hp, -⟩ := heligible.take hf
    rw [hnone] at hp
    cases hp

theorem Fitted.retains_take (hf : q.Fitted) (h : (q.take now).1 = none) : q.Retains (q.take now).2 := by
  rcases hf.cases now with hnil | hrefused | heligible
  · rw [take_of_nil hnil]
    exact ⟨q.bucket, rfl⟩
  · exact hrefused.take.2
  · exact absurd heligible ((hf.not_eligible_iff now).2 h)

theorem eligible_of_unmetered (hrate : q.definition.rateKbps = 0) (h : q.packets ≠ []) (now : Nat) :
    q.Eligible now := by
  obtain ⟨p, rest, hp⟩ := List.exists_cons_of_ne_nil h
  exact ⟨p, rest, hp, .inl hrate⟩

end ClassQueue

/-! ## All queues -/

namespace Scheduler

variable {s : Scheduler} {now : Nat} {before after : List ClassQueue} {q : ClassQueue} {p : Packet}

/-- In every queue a class with a rate has a bucket, and no other class has one. -/
def Fitted (s : Scheduler) : Prop :=
  ∀ q ∈ s.queues, q.Fitted

theorem Fitted.dequeue (h : s.Fitted) (now : Nat) : (s.dequeue now).2.Fitted :=
  ClassQueue.kept_fitted.dequeue h now

theorem Fitted.of_split (h : s.Fitted) (hs : s.queues = before ++ q :: after) :
    (∀ r ∈ before, r.Fitted) ∧ q.Fitted := by
  rw [Fitted, hs, List.forall_mem_append, List.forall_mem_cons] at h
  exact ⟨h.1, h.2.1⟩

/-- A packet is the oldest of a queue and may leave, and none may leave a queue before. -/
structure LeavesAt (s : Scheduler) (now : Nat) (before : List ClassQueue) (q : ClassQueue) (after : List ClassQueue)
    (p : Packet) : Prop where
  queues : s.queues = before ++ q :: after
  passed : ∀ r ∈ before, ¬ r.Eligible now
  eligible : q.Eligible now
  oldest : q.packets.head? = some p

theorem takeFirst_of_passed (hbefore : ∀ r ∈ before, (r.take now).1 = none) :
    takeFirst now before = (none, before.map fun r => (r.take now).2) := by
  rcases takeFirst_cases now before with ⟨-, hpassed⟩ | ⟨front, r, back, p, hs, -, hr, -⟩
  · exact hpassed
  · rw [hbefore r (by rw [hs]; exact List.mem_append_right _ List.mem_cons_self)] at hr
    cases hr

theorem takeFirst_of_some (hq : (q.take now).1 = some p) (after : List ClassQueue) :
    takeFirst now (q :: after) = (some p, (q.take now).2 :: after) := by
  rw [takeFirst]
  split
  · rename_i heq
    rw [heq] at hq ⊢
    rw [← hq]
  · rename_i heq
    rw [heq] at hq
    cases hq

theorem takeFirst_of_nil (h : q.packets = []) (now : Nat) (after : List ClassQueue) :
    takeFirst now (q :: after) = ((takeFirst now after).1, q :: (takeFirst now after).2) := by
  rw [takeFirst, ClassQueue.take_of_nil h]

theorem retains_passed {qs : List ClassQueue} (hf : ∀ q ∈ qs, q.Fitted) (h : ∀ q ∈ qs, (q.take now).1 = none) :
    List.Forall₂ ClassQueue.Retains qs (qs.map fun q => (q.take now).2) :=
  List.forall₂_map_right_iff.2 (List.forall₂_same.2 fun q hq => (hf q hq).retains_take (h q hq))

/-- The packet leaves, the classes passed over keep all but their tokens, and those behind are not asked. -/
theorem dequeue_of_leavesAt (hf : s.Fitted) (h : s.LeavesAt now before q after p) :
    (s.dequeue now).1 = some p ∧
      ∃ passed q', (s.dequeue now).2.queues = passed ++ q' :: after ∧
        List.Forall₂ ClassQueue.Retains before passed ∧ q.Loses p q' := by
  have hserve := s.dequeue_eq_takeFirst now
  obtain ⟨hfbefore, hfq⟩ := hf.of_split h.queues
  have hbefore : ∀ r ∈ before, (r.take now).1 = none := fun r hr =>
    ((hfbefore r hr).not_eligible_iff now).1 (h.passed r hr)
  obtain ⟨hhead, p', hp', hloses⟩ := h.eligible.take hfq
  obtain rfl := Option.some.inj ((hhead.symm.trans hp').symm.trans h.oldest)
  rw [h.queues, takeFirst_append, takeFirst_of_passed hbefore, takeFirst_of_some hp'] at hserve
  obtain ⟨hleft, hqueues⟩ := Prod.mk.inj hserve
  exact ⟨hleft, _, _, hqueues, retains_passed hfbefore hbefore, hloses⟩

theorem dequeue_eq_some_iff (hf : s.Fitted) :
    (s.dequeue now).1 = some p ↔ ∃ before q after, s.LeavesAt now before q after p := by
  constructor
  · intro hp
    rcases s.dequeue_cases now with ⟨-, -, hnone, -⟩ | ⟨before, q, after, p', hs, hbefore, hq, -, hp', -⟩
    · rw [hnone] at hp
      cases hp
    · obtain rfl := Option.some.inj (hp'.symm.trans hp)
      obtain ⟨hfbefore, hfq⟩ := hf.of_split hs
      obtain ⟨heligible, holdest⟩ := (hfq.take_eq_some_iff now).1 hq
      have hpassed : ∀ r ∈ before, ¬ r.Eligible now := fun r hr =>
        ((hfbefore r hr).not_eligible_iff now).2 (hbefore r hr)
      exact ⟨before, q, after, hs, hpassed, heligible, holdest⟩
  · rintro ⟨before, q, after, h⟩
    exact (dequeue_of_leavesAt hf h).1

/-- No packet leaves exactly if every class with a packet is refused it. -/
theorem dequeue_eq_none_iff (hf : s.Fitted) :
    (s.dequeue now).1 = none ↔ ∀ q ∈ s.queues, q.packets ≠ [] → q.Refused now := by
  have hall : (∀ q ∈ s.queues, q.packets ≠ [] → q.Refused now) ↔ ∀ q ∈ s.queues, (q.take now).1 = none :=
    forall₂_congr fun q hq => ((hf q hq).take_eq_none_iff now).symm
  rw [hall]
  rcases s.dequeue_cases now with ⟨hnone, -, hp, -⟩ | ⟨before, q, after, p, hs, -, hq, -, hp, -⟩
  · exact iff_of_true hp hnone
  · refine iff_of_false (by rw [hp]; exact Option.some_ne_none p) fun hnone => ?_
    rw [hnone q (by rw [hs]; exact List.mem_append_right _ List.mem_cons_self)] at hq
    cases hq

theorem retains_dequeue (hf : s.Fitted) (h : (s.dequeue now).1 = none) :
    List.Forall₂ ClassQueue.Retains s.queues (s.dequeue now).2.queues := by
  rcases s.dequeue_cases now with ⟨hnone, -, -, hs'⟩ | ⟨before, q, after, p, -, -, -, -, hp, -⟩
  · rw [hs']
    exact retains_passed hf hnone
  · rw [h] at hp
    cases hp

/-! ## Classes without a rate -/

/-- As long as a class without a rate has a packet, one leaves, and those behind the class are not asked. -/
theorem dequeue_behind (hf : s.Fitted) (hs : s.queues = before ++ q :: after) (hrate : q.definition.rateKbps = 0)
    (now : Nat) :
    ∃ before' q' after', (s.dequeue now).2.queues = before' ++ q' :: after' ∧ q'.definition = q.definition ∧
      (q.packets = [] → q'.packets = []) ∧ (q.packets ≠ [] → after' = after ∧ ∃ p, (s.dequeue now).1 = some p) := by
  have hserve := s.dequeue_eq_takeFirst now
  rw [hs, takeFirst_append] at hserve
  cases hfront : takeFirst now before with
  | mk p? before' =>
    rw [hfront] at hserve
    obtain ⟨hleft, hqueues⟩ := Prod.mk.inj hserve
    cases p? with
    | some p => exact ⟨before', q, after, hqueues, rfl, id, fun _ => ⟨rfl, p, hleft⟩⟩
    | none =>
      by_cases hne : q.packets = []
      · rw [takeFirst_of_nil hne] at hqueues
        exact ⟨before', q, _, hqueues, rfl, id, fun h => absurd hne h⟩
      · obtain ⟨-, p, hp, -⟩ := (ClassQueue.eligible_of_unmetered hrate hne now).take (hf.of_split hs).2
        rw [takeFirst_of_some hp] at hqueues hleft
        exact ⟨before', _, after, hqueues, q.take_definition now, fun h => absurd h hne, fun _ => ⟨rfl, p, hleft⟩⟩

/-- A batch reaches behind a class without a rate only if it empties the class. -/
theorem dequeueBatch_behind (hf : s.Fitted) (hs : s.queues = before ++ q :: after)
    (hrate : q.definition.rateKbps = 0) (now max : Nat) :
    ∃ before' q' after', (s.dequeueBatch now max).2.queues = before' ++ q' :: after' ∧
      q'.definition = q.definition ∧ (q.packets = [] → q'.packets = []) ∧ (q'.packets ≠ [] → after' = after) := by
  induction max generalizing s before q after with
  | zero => exact ⟨before, q, after, hs, rfl, id, fun _ => rfl⟩
  | succ max ih =>
    obtain ⟨before₁, q₁, after₁, hs₁, hdefinition₁, hempty₁, hsame₁⟩ := dequeue_behind hf hs hrate now
    have hf₁ := hf.dequeue now
    rw [dequeueBatch]
    cases hserve : s.dequeue now with
    | mk p? s₁ =>
      rw [hserve] at hs₁ hf₁
      have hkept : q₁.packets ≠ [] → after₁ = after := fun h => (hsame₁ fun he => h (hempty₁ he)).1
      cases p? with
      | none => exact ⟨before₁, q₁, after₁, hs₁, hdefinition₁, hempty₁, hkept⟩
      | some p =>
        obtain ⟨before₂, q₂, after₂, hs₂, hdefinition₂, hempty₂, hsame₂⟩ := ih hf₁ hs₁ (hdefinition₁ ▸ hrate)
        refine ⟨before₂, q₂, after₂, hs₂, hdefinition₂.trans hdefinition₁, fun h => hempty₂ (hempty₁ h), fun h => ?_⟩
        exact (hsame₂ h).trans (hkept fun he => h (hempty₂ he))

theorem takeFirst_of_unmetered {qs : List ClassQueue} (hf : ∀ q ∈ qs, q.Fitted)
    (hrate : ∀ q ∈ qs, q.definition.rateKbps = 0) (now : Nat) :
    (takeFirst now qs).1 = (qs.flatMap ClassQueue.packets).head? ∧
      (takeFirst now qs).2.flatMap ClassQueue.packets = (qs.flatMap ClassQueue.packets).tail := by
  induction qs with
  | nil => exact ⟨rfl, rfl⟩
  | cons q rest ih =>
    obtain ⟨hfq, hfrest⟩ := List.forall_mem_cons.1 hf
    obtain ⟨hq, hrest⟩ := List.forall_mem_cons.1 hrate
    cases hp : q.packets with
    | nil =>
      rw [takeFirst_of_nil hp, List.flatMap_cons, List.flatMap_cons, hp]
      exact ih hfrest hrest
    | cons p packets =>
      have htake := ClassQueue.take_of_unmetered hp (hfq.metered hq) now
      rw [takeFirst_of_some (by rw [htake]), htake, List.flatMap_cons, List.flatMap_cons, hp]
      exact ⟨rfl, rfl⟩

theorem dequeue_eq_head (hf : s.Fitted) (hrate : ∀ c ∈ s.classes, c.rateKbps = 0) (now : Nat) :
    (s.dequeue now).1 = s.waiting.head? ∧ (s.dequeue now).2.waiting = s.waiting.tail := by
  have hserve := s.dequeue_eq_takeFirst now
  have hfirst := takeFirst_of_unmetered hf (fun q hq => hrate _ (List.mem_map_of_mem hq)) now
  rw [← hserve] at hfirst
  exact hfirst

/-- Where no class has a rate, packets leave in the order of the queues. -/
theorem dequeueBatch_eq_take (hf : s.Fitted) (hrate : ∀ c ∈ s.classes, c.rateKbps = 0) (now max : Nat) :
    (s.dequeueBatch now max).1 = s.waiting.take max ∧ (s.dequeueBatch now max).2.waiting = s.waiting.drop max := by
  induction max generalizing s with
  | zero => exact ⟨rfl, rfl⟩
  | succ max ih =>
    obtain ⟨hhead, htail⟩ := dequeue_eq_head hf hrate now
    have hrest := ih (hf.dequeue now) ((s.classes_dequeue now).symm ▸ hrate)
    rw [htail] at hrest
    rw [dequeueBatch]
    cases hserve : s.dequeue now with
    | mk p? s' =>
      rw [hserve] at hhead htail hrest
      cases hw : s.waiting with
      | nil =>
        rw [hw] at hhead htail
        obtain rfl : p? = none := hhead
        exact ⟨rfl, htail⟩
      | cons p rest =>
        rw [hw] at hhead hrest
        obtain rfl : p? = some p := hhead
        exact ⟨congrArg (p :: ·) hrest.1, hrest.2⟩

/-! ## Every history -/

/-- What is served next, and what is not. -/
structure ServesInOrder (s : Scheduler) (now : Nat) : Prop where
  /-- The packet that leaves is the oldest of the first class that one may leave. -/
  next : ∀ p, (s.dequeue now).1 = some p ↔ ∃ before q after, s.LeavesAt now before q after p
  /-- It leaves its queue, and nothing else changes but tokens of the classes in front. -/
  taken : ∀ before q after p, s.LeavesAt now before q after p →
    ∃ passed q', (s.dequeue now).2.queues = passed ++ q' :: after ∧
      List.Forall₂ ClassQueue.Retains before passed ∧ q.Loses p q'
  /-- None leaves exactly if every class that has a packet is refused it. -/
  idle : (s.dequeue now).1 = none ↔ ∀ q ∈ s.queues, q.packets ≠ [] → q.Refused now
  /-- If none leaves, nothing changes but tokens. -/
  kept : (s.dequeue now).1 = none → List.Forall₂ ClassQueue.Retains s.queues (s.dequeue now).2.queues
  /-- As long as a class without a rate has a packet, one leaves, and none behind the class. -/
  strict : ∀ before q after, s.queues = before ++ q :: after → q.definition.rateKbps = 0 → q.packets ≠ [] →
    ∃ p front, (s.dequeue now).1 = some p ∧ (s.dequeue now).2.queues = front ++ after
  /-- A batch that leaves a packet in a class without a rate takes none behind the class. -/
  strictBatch : ∀ before q after max, s.queues = before ++ q :: after → q.definition.rateKbps = 0 →
    ∃ before' q' after', (s.dequeueBatch now max).2.queues = before' ++ q' :: after' ∧
      q'.definition = q.definition ∧ (q'.packets ≠ [] → after' = after)
  /-- A class that is refused does not hold up others. -/
  unblocked : ∀ q ∈ s.queues, q.Eligible now → ∃ p, (s.dequeue now).1 = some p
  /-- Where no class has a rate, a batch is the front of the queues one after the other. -/
  batch : (∀ c ∈ s.classes, c.rateKbps = 0) → ∀ max,
    (s.dequeueBatch now max).1 = s.waiting.take max ∧ (s.dequeueBatch now max).2.waiting = s.waiting.drop max

theorem Fitted.servesInOrder (hf : s.Fitted) (now : Nat) : s.ServesInOrder now where
  next _ := dequeue_eq_some_iff hf
  taken _ _ _ _ h := (dequeue_of_leavesAt hf h).2
  idle := dequeue_eq_none_iff hf
  kept := retains_dequeue hf
  strict before q after hs hrate hne := by
    obtain ⟨before', q', after', hs', -, -, hsame⟩ := dequeue_behind hf hs hrate now
    obtain ⟨rfl, p, hp⟩ := hsame hne
    exact ⟨p, before' ++ [q'], hp, by rw [hs', List.append_assoc, List.singleton_append]⟩
  strictBatch before q after max hs hrate := by
    obtain ⟨before', q', after', hs', hdefinition, -, hsame⟩ := dequeueBatch_behind hf hs hrate now max
    exact ⟨before', q', after', hs', hdefinition, hsame⟩
  unblocked q hq heligible := by
    refine Option.ne_none_iff_exists'.1 fun hnone => ?_
    have hrefused := (dequeue_eq_none_iff hf).1 hnone q hq heligible.ne_nil
    exact ((hf q hq).not_eligible_iff now).2 hrefused.take.1 heligible
  batch hrate := dequeueBatch_eq_take hf hrate now

end Scheduler

namespace ShapingState

open Scheduler

theorem fitted_run (born : Nat) (events : List ShapingEvent) : ((start born).run events).scheduler.Fitted := by
  refine forall_queues_run ClassQueue.kept_fitted (s := start born) (named_new born) (inOrder_new born) ?_ events
  exact List.forall_mem_singleton.2 (ClassQueue.kept_fitted.new .default born)

/-- In every state a scheduler comes to, and at any time, the packet that leaves next is the oldest of the first class
that has no rate or whose bucket pays for it. -/
theorem servesInOrder_run (born : Nat) (events : List ShapingEvent) (now : Nat) :
    ((start born).run events).scheduler.ServesInOrder now :=
  (fitted_run born events).servesInOrder now

/-- A packet of a transfer, known by its port. -/
def loaded (port : UInt16) : Packet :=
  .new (List.replicate 600 0) "lan0" ⟨some (.v4 0x0A000001), some (.v4 0x0A000002), .tcp, port, 80, 600⟩

/-- A class with a thousand octets a second in front of one without a rate; of two packets of six hundred octets one
has left. -/
def transfer : List ShapingEvent :=
  [.add { TrafficClass.plain "limited" 10 with protocol := some .tcp, rateKbps := 8 },
    .add { TrafficClass.plain "low" 1 with protocol := some .udp },
    .enqueue (loaded 1), .enqueue (loaded 2), .enqueue (spoken 1), .dequeue]

/-- The second packet of the transfer is refused, and one of a later class leaves; then none may leave, but the second
packet may after 200 milliseconds. -/
theorem servesInOrder_transfer :
    (∃ before q after, ((start 0).run transfer).scheduler.LeavesAt 0 before q after (spoken 1)) ∧
    (∀ q ∈ ((start 0).run (transfer ++ [.dequeue])).scheduler.queues, q.packets ≠ [] → q.Refused 0) ∧
    ∃ before q after,
      ((start 0).run (transfer ++ [.dequeue])).scheduler.LeavesAt 200000000 before q after (loaded 2) := by
  have hfirst := (servesInOrder_run 0 transfer 0).next (spoken 1)
  have hidle := (servesInOrder_run 0 (transfer ++ [.dequeue]) 0).idle
  have hlater := (servesInOrder_run 0 (transfer ++ [.dequeue]) 200000000).next (loaded 2)
  exact ⟨hfirst.1 (by decide +kernel), hidle.1 (by decide +kernel), hlater.1 (by decide +kernel)⟩

end ShapingState

end Router
