import Router.Proofs.Shaping.Admission

/-!
# Histories of a scheduler

A scheduler is told events one after another, the passing of time among them (`ShapingState.run`); what it refuses
leaves it as it was. Packets that come and go change no class (`classes_enqueue`, `classes_dequeue`). Main statement: in
every state the names of the classes are distinct, and the class served last is the default one
(`ShapingState.named_run`).
-/

namespace Router

/-! ## Names -/

namespace ClassQueue

/-- The name of the class of a queue. -/
def name (q : ClassQueue) : String :=
  q.definition.name

@[simp] theorem redefine_packets (q : ClassQueue) (c : TrafficClass) (now : Nat) :
    (q.redefine c now).packets = q.packets := rfl

@[simp] theorem redefine_name (q : ClassQueue) (c : TrafficClass) (now : Nat) : (q.redefine c now).name = c.name := rfl

@[simp] theorem new_packets (c : TrafficClass) (now : Nat) : (ClassQueue.new c now).packets = [] := rfl

@[simp] theorem new_name (c : TrafficClass) (now : Nat) : (ClassQueue.new c now).name = c.name := rfl

theorem take_definition (q : ClassQueue) (now : Nat) : (q.take now).2.definition = q.definition := by
  unfold take
  split
  · rfl
  · rfl
  · dsimp only
    split <;> rfl

end ClassQueue

namespace Scheduler

variable {s s' : Scheduler} {p : Packet} {now : Nat} {c : TrafficClass} {name : String} {classes : List TrafficClass}

/-- The names of the classes but the one served last. -/
def rankedNames (s : Scheduler) : List String :=
  s.ranked.map ClassQueue.name

/-- No name stands twice, and the default class is the one served last. -/
structure Named (s : Scheduler) : Prop where
  distinct : s.rankedNames.Nodup
  others : TrafficClass.defaultName ∉ s.rankedNames
  last : s.fallback.name = TrafficClass.defaultName

theorem named_new (now : Nat) : (new now).Named :=
  ⟨List.nodup_nil, List.not_mem_nil, rfl⟩

theorem Named.of_names (h : s.Named) (hranked : s'.rankedNames.Perm s.rankedNames)
    (hlast : s'.fallback.name = s.fallback.name) : s'.Named :=
  ⟨hranked.nodup_iff.2 h.distinct, fun hm => h.others (hranked.mem_iff.1 hm), hlast.trans h.last⟩

theorem classes_eq (s : Scheduler) : s.classes = s.ranked.map ClassQueue.definition ++ [s.fallback.definition] := by
  simp [classes, queues]

/-- What changes no class changes no name. -/
theorem Named.of_classes (h : s.Named) (hclasses : s'.classes = s.classes) : s'.Named := by
  rw [classes_eq, classes_eq] at hclasses
  obtain ⟨hranked, hlast⟩ := List.append_inj' hclasses rfl
  refine h.of_names ?_ (congrArg TrafficClass.name (List.singleton_inj.1 hlast))
  have hnames := congrArg (List.map TrafficClass.name) hranked
  rw [List.map_map, List.map_map] at hnames
  exact .of_eq hnames

/-- The name of a class that can be added is new. -/
theorem not_mem_rankedNames (h : s.queue? name = none) : name ∉ s.rankedNames := by
  intro hm
  obtain ⟨q, hq, rfl⟩ := List.mem_map.1 hm
  have := List.find?_eq_none.1 h q (List.mem_append_left _ hq)
  exact this (decide_eq_true rfl)

/-! ## Packets in and out -/

theorem classes_enqueue (s : Scheduler) (p : Packet) : (s.enqueue p).2.classes = s.classes := by
  obtain ⟨before, q, after, hs, -, -, -, hs'⟩ := s.enqueue_queues p
  rw [classes, hs', classes, hs]
  simp

theorem definitions_takeFirst (now : Nat) (qs : List ClassQueue) :
    (takeFirst now qs).2.map ClassQueue.definition = qs.map ClassQueue.definition := by
  induction qs with
  | nil => rfl
  | cons q rest ih =>
    have hq := q.take_definition now
    rw [takeFirst]
    split
    · rename_i heq
      rw [heq] at hq
      exact congrArg (· :: rest.map ClassQueue.definition) hq
    · rename_i heq
      rw [heq] at hq
      dsimp only
      rw [List.map_cons, List.map_cons, ih, hq]

theorem classes_dequeue (s : Scheduler) (now : Nat) : (s.dequeue now).2.classes = s.classes := by
  have hranked := definitions_takeFirst now s.ranked
  rw [classes_eq, classes_eq]
  unfold dequeue
  split
  · rename_i heq
    rw [heq] at hranked
    exact congrArg (· ++ [s.fallback.definition]) hranked
  · rename_i heq
    rw [heq] at hranked
    dsimp only at hranked ⊢
    rw [hranked, s.fallback.take_definition now]

theorem classes_dequeueBatch (s : Scheduler) (now max : Nat) : (s.dequeueBatch now max).2.classes = s.classes := by
  induction max generalizing s with
  | zero => rfl
  | succ max ih =>
    have hs := s.classes_dequeue now
    rw [dequeueBatch]
    split
    · rename_i heq
      rw [heq] at hs
      exact hs
    · rename_i heq
      rw [heq] at hs
      exact (ih _).trans hs

/-! ## Changing the classes -/

theorem rankedNames_rank (qs : List ClassQueue) (fallback : ClassQueue) :
    (rankedNames ⟨rank qs, fallback⟩).Perm (qs.map ClassQueue.name) :=
  (Ranking.rank_perm _ qs).map ClassQueue.name

theorem Named.add (h : s.Named) (ha : s.add now c = .ok s') : s'.Named := by
  unfold Scheduler.add at ha
  split at ha
  · cases ha
  · rename_i hfree
    rw [Option.isSome_iff_ne_none, ne_eq, Classical.not_not] at hfree
    cases ha
    have hnew := not_mem_rankedNames hfree
    have hdefault : c.name ≠ TrafficClass.defaultName := by
      intro hname
      have hlast := List.find?_eq_none.1 hfree s.fallback (List.mem_append_right _ (List.mem_singleton_self _))
      exact hlast (decide_eq_true (h.last.trans hname.symm))
    have hperm := rankedNames_rank (s.ranked ++ [ClassQueue.new c now]) s.fallback
    rw [List.map_append, List.map_singleton, ClassQueue.new_name, ← rankedNames] at hperm
    have hcons := hperm.trans (List.perm_append_singleton c.name s.rankedNames)
    refine ⟨hcons.nodup_iff.2 (List.nodup_cons.2 ⟨hnew, h.distinct⟩), ?_, h.last⟩
    intro hm
    rcases List.mem_cons.1 (hcons.mem_iff.1 hm) with hname | hm
    · exact hdefault hname.symm
    · exact h.others hm

theorem Named.remove? {gone : List Packet} (h : s.Named) (hr : s.remove? name = some (s', gone)) : s'.Named := by
  unfold Scheduler.remove? at hr
  split at hr
  · cases hr
  · obtain ⟨q, -, he⟩ := Option.map_eq_some_iff.1 hr
    cases he
    have hsub := (List.eraseP_sublist (p := fun q : ClassQueue => q.definition.name = name) (l := s.ranked)).map
      ClassQueue.name
    exact ⟨hsub.nodup h.distinct, fun hm => h.others (hsub.subset hm), h.last⟩

theorem Named.update? (h : s.Named) (hu : s.update? now c = some s') : s'.Named := by
  unfold Scheduler.update? at hu
  split at hu
  · rename_i hdefault
    cases hu
    exact ⟨h.distinct, h.others, of_decide_eq_true hdefault⟩
  · split at hu
    · cases hu
      refine h.of_names ((rankedNames_rank _ s.fallback).trans (.of_eq ?_)) rfl
      rw [List.map_map]
      refine List.map_congr_left fun q _ => ?_
      rw [Function.comp_apply]
      split
      · rename_i hname
        exact (q.redefine_name c now).trans hname.symm
      · rfl
    · cases hu

theorem nodup_firstByName (classes : List TrafficClass) : ((firstByName classes).map TrafficClass.name).Nodup := by
  suffices h : ∀ kept : List TrafficClass, (kept.map TrafficClass.name).Nodup →
      ((classes.foldl (fun kept c => if kept.any (·.name = c.name) then kept else kept ++ [c]) kept).map
        TrafficClass.name).Nodup from h [] List.nodup_nil
  induction classes with
  | nil => exact fun _ h => h
  | cons c rest ih =>
    intro kept hkept
    rw [List.foldl_cons]
    refine ih _ ?_
    split
    · exact hkept
    · rename_i hnew
      rw [List.map_append, List.map_singleton]
      refine (List.perm_append_singleton c.name _).nodup_iff.2 (List.nodup_cons.2 ⟨?_, hkept⟩)
      intro hm
      obtain ⟨k, hk, hname⟩ := List.mem_map.1 hm
      exact hnew (List.any_eq_true.2 ⟨k, hk, decide_eq_true hname⟩)

/-- The names of a list of classes but the default one. -/
def otherNames (classes : List TrafficClass) : List String :=
  ((firstByName classes).filter fun c => !c.isDefault).map TrafficClass.name

theorem nodup_otherNames (classes : List TrafficClass) : (otherNames classes).Nodup :=
  (List.filter_sublist.map TrafficClass.name).nodup (nodup_firstByName classes)

theorem defaultName_not_mem_otherNames (classes : List TrafficClass) :
    TrafficClass.defaultName ∉ otherNames classes := by
  intro hm
  obtain ⟨c, hc, hname⟩ := List.mem_map.1 hm
  have hother := (List.mem_filter.1 hc).2
  simp [TrafficClass.isDefault, hname] at hother

/-- The queue of a class in a new set of classes. -/
def installed (s : Scheduler) (now : Nat) (c : TrafficClass) : ClassQueue :=
  match s.ranked.find? (·.definition.name = c.name) with
  | some q => q.redefine c now
  | none => ClassQueue.new c now

theorem installed_name (s : Scheduler) (now : Nat) (c : TrafficClass) : (s.installed now c).name = c.name := by
  unfold installed
  split <;> rfl

theorem replace_ranked (s : Scheduler) (now : Nat) (classes : List TrafficClass) :
    (s.replace now classes).1.ranked =
      rank (((firstByName classes).filter fun c => !c.isDefault).map (s.installed now)) := rfl

theorem replace_fallback (s : Scheduler) (now : Nat) (classes : List TrafficClass) :
    (s.replace now classes).1.fallback = s.fallback ∨
      ∃ c, c.name = TrafficClass.defaultName ∧ (s.replace now classes).1.fallback = s.fallback.redefine c now := by
  unfold replace
  dsimp only
  split
  · rename_i c hc
    have hdefault := List.find?_some hc
    exact .inr ⟨c, of_decide_eq_true hdefault, rfl⟩
  · exact .inl rfl

theorem rankedNames_replace (s : Scheduler) (now : Nat) (classes : List TrafficClass) :
    (s.replace now classes).1.rankedNames.Perm (otherNames classes) := by
  rw [rankedNames, replace_ranked]
  refine ((Ranking.rank_perm _ _).map ClassQueue.name).trans (.of_eq ?_)
  rw [List.map_map]
  exact List.map_congr_left fun c _ => s.installed_name now c

theorem Named.replace (h : s.Named) (now : Nat) (classes : List TrafficClass) : (s.replace now classes).1.Named := by
  have hperm := s.rankedNames_replace now classes
  refine ⟨hperm.nodup_iff.2 (nodup_otherNames classes),
    fun hm => defaultName_not_mem_otherNames classes (hperm.mem_iff.1 hm), ?_⟩
  obtain he | ⟨c, hc, he⟩ := s.replace_fallback now classes
  · rw [he]
    exact h.last
  · rw [he]
    exact hc

end Scheduler

/-! ## Events -/

/-- What a scheduler can be told, the passing of time included. -/
inductive ShapingEvent
  | enqueue (p : Packet)
  | dequeue
  | add (c : TrafficClass)
  | remove (name : String)
  | update (c : TrafficClass)
  | replace (classes : List TrafficClass)
  /-- Time goes by, in nanoseconds. -/
  | wait (duration : Nat)

/-- A scheduler at a time. -/
structure ShapingState where
  scheduler : Scheduler
  now : Nat

namespace ShapingState

/-- A scheduler that was told nothing yet. -/
def start (now : Nat) : ShapingState :=
  ⟨.new now, now⟩

/-- The state after an event. -/
def step (s : ShapingState) : ShapingEvent → ShapingState
  | .enqueue p => { s with scheduler := (s.scheduler.enqueue p).2 }
  | .dequeue => { s with scheduler := (s.scheduler.dequeue s.now).2 }
  | .add c => { s with scheduler := (s.scheduler.add s.now c).toOption.getD s.scheduler }
  | .remove name => { s with scheduler := ((s.scheduler.remove? name).map Prod.fst).getD s.scheduler }
  | .update c => { s with scheduler := (s.scheduler.update? s.now c).getD s.scheduler }
  | .replace classes => { s with scheduler := (s.scheduler.replace s.now classes).1 }
  | .wait duration => { s with now := s.now + duration }

/-- The state after events. -/
def run (s : ShapingState) (events : List ShapingEvent) : ShapingState :=
  events.foldl step s

/-- A change of the classes is refused. -/
def Fails (s : ShapingState) : ShapingEvent → Prop
  | .add c => ∃ error, s.scheduler.add s.now c = .error error
  | .update c => s.scheduler.update? s.now c = none
  | .remove name => s.scheduler.remove? name = none
  | _ => False

/-- What an event can do to the scheduler of a state. -/
inductive Told (s : ShapingState) : ShapingEvent → Scheduler → Prop
  | waited (duration : Nat) : s.Told (.wait duration) s.scheduler
  | failed {e : ShapingEvent} (h : s.Fails e) : s.Told e s.scheduler
  | enqueued (p : Packet) : s.Told (.enqueue p) (s.scheduler.enqueue p).2
  | dequeued : s.Told .dequeue (s.scheduler.dequeue s.now).2
  | added {c : TrafficClass} {s' : Scheduler} (h : s.scheduler.add s.now c = .ok s') : s.Told (.add c) s'
  | removed {name : String} {s' : Scheduler} {gone : List Packet} (h : s.scheduler.remove? name = some (s', gone)) :
      s.Told (.remove name) s'
  | updated {c : TrafficClass} {s' : Scheduler} (h : s.scheduler.update? s.now c = some s') : s.Told (.update c) s'
  | replaced (classes : List TrafficClass) : s.Told (.replace classes) (s.scheduler.replace s.now classes).1

theorem told_step (s : ShapingState) (e : ShapingEvent) : s.Told e (s.step e).scheduler := by
  cases e with
  | enqueue p => exact .enqueued p
  | dequeue => exact .dequeued
  | replace classes => exact .replaced classes
  | wait duration => exact .waited duration
  | add c =>
    rw [step]
    cases ha : s.scheduler.add s.now c with
    | error error => exact .failed ⟨error, ha⟩
    | ok s' => exact .added ha
  | remove name =>
    rw [step]
    cases hr : s.scheduler.remove? name with
    | none => exact .failed hr
    | some r => exact .removed hr
  | update c =>
    rw [step]
    cases hu : s.scheduler.update? s.now c with
    | none => exact .failed hu
    | some s' => exact .updated hu

theorem named_step {s : ShapingState} (h : s.scheduler.Named) (e : ShapingEvent) : (s.step e).scheduler.Named := by
  have htold := s.told_step e
  generalize (s.step e).scheduler = s' at htold ⊢
  cases htold with
  | waited duration => exact h
  | failed => exact h
  | enqueued p => exact h.of_classes (s.scheduler.classes_enqueue p)
  | dequeued => exact h.of_classes (s.scheduler.classes_dequeue s.now)
  | added ha => exact h.add ha
  | removed hr => exact h.remove? hr
  | updated hu => exact h.update? hu
  | replaced classes => exact h.replace s.now classes

theorem named_run {s : ShapingState} (h : s.scheduler.Named) (events : List ShapingEvent) :
    (s.run events).scheduler.Named := by
  induction events generalizing s with
  | nil => exact h
  | cons e rest ih => exact ih (named_step h e)

end ShapingState

/-- A scheduler that a history of events leads to. -/
def Scheduler.Reachable (s : Scheduler) : Prop :=
  ∃ born events, ((ShapingState.start born).run events).scheduler = s

theorem Scheduler.Reachable.named {s : Scheduler} (h : s.Reachable) : s.Named := by
  obtain ⟨born, events, rfl⟩ := h
  exact ShapingState.named_run (named_new born) events

end Router
