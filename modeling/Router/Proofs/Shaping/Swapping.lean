import Router.Proofs.Shaping.Replacement

/-!
# A new set of classes in one pass over the queues

A set of classes can be replaced class by class: each one listed takes the queue of its name out of the old list, where
the last queue fills the gap (`swapRemove`), and what nobody took is given up. The order of the old list is lost, but no
queue is (`perm_takeOut?`), and when the classes of a list were installed the old list has the queues of the other
names, in some order (`installed_foldl`); then the default queue is kept (`run_assembled`). Where names are distinct this
is `Scheduler.replace`, the packets given up being the same up to their order. Main statement: `exchanged_run`.
-/

namespace Router

/-! ## Taking an item out of a list -/

section Items

variable {α : Type} {p : α → Bool} {xs rest : List α} {a : α} {i : Nat}

/-- A list without the item in one place, where the last item goes. -/
def swapRemove (xs : List α) (i : Nat) : List α :=
  match xs.getLast? with
  | some last => (xs.set i last).dropLast
  | none => []

/-- The first item that passes, and the list without it. -/
def takeOut? (p : α → Bool) (xs : List α) : Option (α × List α) :=
  (xs.findIdx? p).bind fun i => xs[i]?.map fun a => (a, swapRemove xs i)

theorem swapRemove_concat (before : List α) (a : α) : swapRemove (before ++ [a]) before.length = before := by
  simp [swapRemove]

theorem swapRemove_append_cons (before middle : List α) (a last : α) :
    swapRemove (before ++ a :: (middle ++ [last])) before.length = before ++ last :: middle := by
  simp [swapRemove, List.getLast?_cons, List.dropLast_append_of_ne_nil, List.dropLast_cons_of_ne_nil]

theorem perm_swapRemove (ha : xs[i]? = some a) : xs.Perm (a :: swapRemove xs i) := by
  obtain ⟨before, after, rfl, rfl⟩ : ∃ before after, xs = before ++ a :: after ∧ before.length = i := by
    obtain ⟨hi, rfl⟩ := List.getElem?_eq_some_iff.1 ha
    refine ⟨xs.take i, xs.drop (i + 1), ?_, List.length_take_of_le (Nat.le_of_lt hi)⟩
    rw [← List.drop_eq_getElem_cons hi, List.take_append_drop]
  rcases List.eq_nil_or_concat' after with rfl | ⟨middle, last, rfl⟩
  · rw [swapRemove_concat]
    exact List.perm_append_singleton a before
  · rw [swapRemove_append_cons]
    refine List.perm_middle.trans (.cons a ?_)
    exact (List.perm_append_singleton last middle).append_left before

theorem map_fst_takeOut? (p : α → Bool) (xs : List α) : (takeOut? p xs).map Prod.fst = xs.find? p := by
  rw [List.find?_eq_bind_findIdx?_getElem?, takeOut?, Option.map_bind]
  refine congrArg (Option.bind _) (funext fun i => ?_)
  rw [Function.comp_apply, Option.map_map]
  exact Option.map_id'

theorem perm_takeOut? (h : takeOut? p xs = some (a, rest)) : xs.Perm (a :: rest) := by
  obtain ⟨i, -, hi⟩ := Option.bind_eq_some_iff.1 h
  obtain ⟨b, hb, he⟩ := Option.map_eq_some_iff.1 hi
  cases he
  exact perm_swapRemove hb

/-- The last item goes where the one that is taken was. -/
example : takeOut? (· = 1) [0, 1, 2, 3] = some (1, [0, 3, 2]) := rfl

end Items

/-! ## The pass -/

/-- The queues that no class has taken yet, and those of the new set of classes. -/
structure Exchange where
  old : List ClassQueue
  new : List ClassQueue

namespace Exchange

/-- Installs a class that is not there yet, with the old queue of its name or else a new one. -/
def install (now : Nat) (t : Exchange) (c : TrafficClass) : Exchange :=
  if t.new.any (·.definition.name = c.name) then t
  else
    match takeOut? (·.definition.name = c.name) t.old with
    | some (q, rest) => ⟨rest, t.new ++ [q.redefine c now]⟩
    | none => ⟨t.old, t.new ++ [ClassQueue.new c now]⟩

/-- Adds the default class if no queue is of it. -/
def ensureDefault (now : Nat) (queues : List ClassQueue) : List ClassQueue :=
  if queues.any (·.definition.isDefault) then queues else queues ++ [ClassQueue.new .default now]

/-- Keeps the old default queue if the default class was not installed. -/
def keepDefault (now : Nat) (t : Exchange) : Exchange :=
  if t.new.any (·.definition.name = TrafficClass.defaultName) then t
  else
    match takeOut? (·.definition.isDefault) t.old with
    | some (q, rest) => ⟨rest, t.new ++ [q]⟩
    | none => ⟨t.old, ensureDefault now t.new⟩

/-- All classes of a list installed, and the default one kept. -/
def run (now : Nat) (queues : List ClassQueue) (classes : List TrafficClass) : Exchange :=
  (classes.foldl (install now) ⟨queues, []⟩).keepDefault now

/-- The queues of a new set of classes in the order they are served, and the packets given up. -/
def result (t : Exchange) : List ClassQueue × List Packet :=
  (Scheduler.rankAll t.new, t.old.flatMap ClassQueue.packets)

end Exchange

namespace Scheduler

variable {s : Scheduler} {now : Nat} {c : TrafficClass} {q : ClassQueue} {name : String} {names : List String}
  {listed classes : List TrafficClass} {old rest : List ClassQueue} {t : Exchange}

/-- The queues of all names but some. -/
def besides (s : Scheduler) (names : List String) : List ClassQueue :=
  s.queues.filter (·.name ∉ names)

/-- Where an exchange is when the classes of a list were installed. -/
structure Installed (s : Scheduler) (now : Nat) (listed : List TrafficClass) (t : Exchange) : Prop where
  new : t.new = (firstByName listed).map (s.carried now)
  old : t.old.Perm (s.besides (listed.map TrafficClass.name))

theorem Installed.any_new (h : s.Installed now listed t) (name : String) :
    t.new.any (·.definition.name = name) = (firstByName listed).any (·.name = name) := by
  rw [h.new, List.any_map]
  exact congrArg (List.any _) (funext fun c => by rw [Function.comp_apply, carried_definition])

theorem Installed.any_new_iff (h : s.Installed now listed t) :
    t.new.any (·.definition.name = name) = true ↔ name ∈ listed.map TrafficClass.name := by
  rw [h.any_new, ← mem_map_firstByName_iff]
  simp

/-! ## The queue of a name among the old ones -/

theorem mem_besides_iff : q ∈ s.besides names ↔ q ∈ s.queues ∧ q.name ∉ names := by
  simp [besides]

theorem besides_concat (s : Scheduler) (names : List String) (name : String) :
    s.besides (names ++ [name]) = (s.besides names).filter (·.name ≠ name) := by
  rw [besides, besides, List.filter_filter]
  refine List.filter_congr fun q _ => ?_
  simp [and_comm]

theorem besides_concat_of_mem (hname : name ∈ names) : s.besides (names ++ [name]) = s.besides names := by
  rw [besides_concat]
  refine List.filter_eq_self.2 fun q hq => decide_eq_true fun he => ?_
  exact (mem_besides_iff.1 hq).2 (he ▸ hname)

/-- When the queue of a name is taken, no other of the name stays. -/
theorem perm_besides_concat (h : s.Named) (hq : (q :: rest).Perm (s.besides names)) (hname : q.name = name) :
    rest.Perm (s.besides (names ++ [name])) := by
  have hnodup : ((q :: rest).map ClassQueue.name).Nodup := by
    refine (hq.map ClassQueue.name).nodup_iff.2 (((List.filter_sublist).map ClassQueue.name).nodup ?_)
    rw [← names_eq_map]
    exact h.nodup_names
  have hothers : ∀ r ∈ rest, r.name ≠ name := by
    intro r hr he
    rw [List.map_cons, hname] at hnodup
    exact (List.nodup_cons.1 hnodup).1 (he ▸ List.mem_map_of_mem hr)
  have hkept := hq.filter (·.name ≠ name)
  rwa [List.filter_cons_of_neg (by simp [hname]), List.filter_eq_self.2 (by simpa using hothers),
    ← besides_concat] at hkept

/-- The queue of a name that was not taken yet is taken, if there is one. -/
theorem takeOut?_besides (h : s.Named) (hold : old.Perm (s.besides names)) (hname : name ∉ names) :
    match takeOut? (·.definition.name = name) old with
    | some (q, rest) => s.queue? name = some q ∧ rest.Perm (s.besides (names ++ [name]))
    | none => s.queue? name = none ∧ old.Perm (s.besides (names ++ [name])) := by
  have hfind := map_fst_takeOut? (fun q : ClassQueue => decide (q.definition.name = name)) old
  split
  · rename_i q rest htake
    rw [htake] at hfind
    have hq := List.find?_some hfind.symm
    have hq : q.name = name := of_decide_eq_true hq
    have hperm := (perm_takeOut? htake).symm.trans hold
    obtain ⟨hthere, -⟩ := mem_besides_iff.1 (hperm.mem_iff.1 List.mem_cons_self)
    exact ⟨(queue?_eq_some_iff h).2 ⟨hthere, hq⟩, perm_besides_concat h hperm hq⟩
  · rename_i htake
    rw [htake] at hfind
    have hnone : ∀ r ∈ s.besides names, r.name ≠ name := by
      intro r hr he
      have hother := List.find?_eq_none.1 hfind.symm r (hold.mem_iff.2 hr)
      exact hother (decide_eq_true he)
    refine ⟨queue?_eq_none_iff.2 fun hthere => ?_, ?_⟩
    · rw [names_eq_map] at hthere
      obtain ⟨r, hr, he⟩ := List.mem_map.1 hthere
      exact hnone r (mem_besides_iff.2 ⟨hr, he ▸ hname⟩) he
    · rwa [besides_concat, List.filter_eq_self.2 (by simpa using hnone)]

/-! ## What the pass comes to -/

theorem Installed.install (h : s.Named) (ht : s.Installed now listed t) (c : TrafficClass) :
    s.Installed now (listed ++ [c]) (t.install now c) := by
  have hnames : (listed ++ [c]).map TrafficClass.name = listed.map TrafficClass.name ++ [c.name] := List.map_append
  have hclasses := firstByName_append_singleton listed c
  rw [← ht.any_new] at hclasses
  rw [Exchange.install]
  split
  · rename_i hthere
    rw [if_pos hthere] at hclasses
    constructor
    case new => rw [hclasses, ht.new]
    case old =>
      rw [hnames, besides_concat_of_mem (ht.any_new_iff.1 hthere)]
      exact ht.old
  · rename_i hfree
    rw [if_neg hfree] at hclasses
    have htaken := takeOut?_besides h ht.old (mt ht.any_new_iff.2 hfree)
    split
    · rename_i q rest htake
      rw [htake] at htaken
      obtain ⟨hq, hrest⟩ := htaken
      constructor
      case new => rw [hclasses, List.map_append, ← ht.new, List.map_singleton, carried, hq]
      case old => rwa [hnames]
    · rename_i htake
      rw [htake] at htaken
      obtain ⟨hnone, hold⟩ := htaken
      constructor
      case new => rw [hclasses, List.map_append, ← ht.new, List.map_singleton, carried, hnone]
      case old => rwa [hnames]

theorem installed_foldl (h : s.Named) (now : Nat) (classes : List TrafficClass) :
    s.Installed now classes (classes.foldl (Exchange.install now) ⟨s.queues, []⟩) := by
  induction classes using List.reverseRecOn with
  | nil => exact ⟨rfl, .of_eq (List.filter_eq_self.2 fun q _ => rfl).symm⟩
  | append_singleton listed c ih =>
    rw [List.foldl_append]
    exact ih.install h c

/-- With the default class kept, the queues are those of the new set of classes, and the old ones those of all names but
the listed ones and that of the default class. -/
theorem run_assembled (h : s.Named) (now : Nat) (classes : List TrafficClass) :
    (Exchange.run now s.queues classes).new = s.assembled now classes ∧
      (Exchange.run now s.queues classes).old.Perm
        (s.besides (classes.map TrafficClass.name ++ [TrafficClass.defaultName])) := by
  have ht := installed_foldl h now classes
  rw [Exchange.run]
  generalize classes.foldl (Exchange.install now) ⟨s.queues, []⟩ = t at ht ⊢
  have hany : (firstByName classes).any TrafficClass.isDefault =
      t.new.any (·.definition.name = TrafficClass.defaultName) := (ht.any_new TrafficClass.defaultName).symm
  rw [Exchange.keepDefault, assembled, hany, ← ht.new]
  split
  · rename_i hthere
    rw [List.append_nil, besides_concat_of_mem (ht.any_new_iff.1 hthere)]
    exact ⟨rfl, ht.old⟩
  · rename_i hfree
    have htaken := takeOut?_besides h ht.old (mt ht.any_new_iff.2 hfree)
    rw [queue?_default h] at htaken
    split
    · rename_i q rest htake
      replace htake : takeOut? (·.definition.name = TrafficClass.defaultName) t.old = some (q, rest) := htake
      rw [htake] at htaken
      obtain ⟨hq, hrest⟩ := htaken
      exact ⟨by rw [Option.some.inj hq], hrest⟩
    · rename_i htake
      -- The default queue was among the old ones, and no class has taken it.
      replace htake : takeOut? (·.definition.name = TrafficClass.defaultName) t.old = none := htake
      rw [htake] at htaken
      cases htaken.1

theorem exchanged (h : s.Named) (now : Nat) (classes : List TrafficClass) :
    (Exchange.run now s.queues classes).result.1 = (s.replace now classes).1.queues ∧
      (Exchange.run now s.queues classes).result.2.Perm (s.replace now classes).2 := by
  obtain ⟨hnew, hold⟩ := run_assembled h now classes
  constructor
  · rw [queues_replace h, ← hnew]
    rfl
  · rw [released_replace h]
    refine (hold.flatMap_right ClassQueue.packets).trans (.of_eq (congrArg _ (List.filter_congr fun q _ => ?_)))
    simp

end Scheduler

namespace ShapingState

/-- In every state a scheduler comes to, one pass over its queues gives the queues of the new set of classes, and gives
up the packets that the new set gives up. -/
theorem exchanged_run (born : Nat) (events : List ShapingEvent) (now : Nat) (classes : List TrafficClass) :
    let s := ((start born).run events).scheduler
    (Exchange.run now s.queues classes).result.1 = (s.replace now classes).1.queues ∧
      (Exchange.run now s.queues classes).result.2.Perm (s.replace now classes).2 :=
  Scheduler.exchanged (named_run (Scheduler.named_new born) events) now classes

end ShapingState

end Router
