import Router.Proofs.Assoc
import Router.Proofs.Shaping.Order
import Router.Proofs.Shaping.Waiting

/-!
# A new set of classes

Names are distinct, so a queue is the one of its name (`queue?_eq_some_iff`), and a new set of classes is told by what
stands under each name afterwards (`queue?_replace`): the first class that the list has of the name, with the queue that
was there or else a new one; or, where the list has none, the default queue as it was, and nothing under another name.
The packets of the names that go are given up (`released_replace`), and each packet is given up or waits
(`waiting_replace`). Main statement: `replaced_run`.
-/

namespace Router

/-! ## What a queue keeps -/

namespace ClassQueue

/-- The packets and counts are as before, and so are the tokens unless the rate is another. -/
structure Continues (old q : ClassQueue) (now : Nat) : Prop where
  packets : q.packets = old.packets
  enqueued : q.enqueued = old.enqueued
  dequeued : q.dequeued = old.dequeued
  dropped : q.dropped = old.dropped
  bucket : q.definition.rateKbps = old.definition.rateKbps → q.bucket = old.bucket
  refilled : q.definition.rateKbps ≠ old.definition.rateKbps → q.bucket = bucketFor q.definition now

/-- No packet waits, and none was counted. -/
structure Fresh (q : ClassQueue) (now : Nat) : Prop where
  packets : q.packets = []
  enqueued : q.enqueued = 0
  dequeued : q.dequeued = 0
  dropped : q.dropped = 0
  bucket : q.bucket = bucketFor q.definition now

theorem continues_self (q : ClassQueue) (now : Nat) : q.Continues q now :=
  ⟨rfl, rfl, rfl, rfl, fun _ => rfl, fun h => absurd rfl h⟩

theorem continues_redefine (q : ClassQueue) (c : TrafficClass) (now : Nat) : q.Continues (q.redefine c now) now :=
  ⟨rfl, rfl, rfl, rfl, fun h => if_pos h, fun h => if_neg h⟩

theorem fresh_new (c : TrafficClass) (now : Nat) : (new c now).Fresh now :=
  ⟨rfl, rfl, rfl, rfl, rfl⟩

end ClassQueue

namespace Scheduler

variable {s : Scheduler} {now : Nat} {c : TrafficClass} {q : ClassQueue} {name : String}
  {classes : List TrafficClass}

/-! ## The class of a name -/

theorem queue?_eq_some_iff (h : s.Named) : s.queue? name = some q ↔ q ∈ s.queues ∧ q.name = name := by
  have hnodup := h.nodup_names
  rw [names_eq_map] at hnodup
  exact Assoc.find?_eq_some_iff hnodup

theorem find?_eq_none_iff : classes.find? (·.name = name) = none ↔ name ∉ classes.map TrafficClass.name := by
  simp

theorem mem_firstByName_iff : c ∈ firstByName classes ↔ classes.find? (·.name = c.name) = some c := by
  rw [← find?_firstByName, Assoc.find?_eq_some_iff (nodup_firstByName classes), and_iff_left rfl]

theorem mem_map_firstByName_iff : name ∈ (firstByName classes).map TrafficClass.name ↔
    name ∈ classes.map TrafficClass.name := by
  rw [← not_iff_not, ← find?_eq_none_iff, ← find?_eq_none_iff, find?_firstByName]

theorem mem_queues_replace (h : s.Named) : q ∈ (s.replace now classes).1.queues ↔ q ∈ s.assembled now classes := by
  rw [queues_replace h]
  exact (Ranking.rank_perm _ _).mem_iff

theorem mem_otherNames_iff (hne : name ≠ TrafficClass.defaultName) :
    name ∈ otherNames classes ↔ name ∈ classes.map TrafficClass.name := by
  rw [← mem_names_firstByName classes hne, mem_map_firstByName_iff]

/-- The names of a new set of classes are those listed and that of the default class. -/
theorem mem_names_replace (h : s.Named) :
    name ∈ (s.replace now classes).1.names ↔
      name ∈ classes.map TrafficClass.name ∨ name = TrafficClass.defaultName := by
  rw [names_eq (h.replace now classes), List.mem_append, List.mem_singleton]
  refine or_congr_left' fun hne => ?_
  rw [(s.rankedNames_replace now classes).mem_iff, mem_otherNames_iff hne]

/-- What stands under a name in a new set of classes. -/
theorem queue?_replace (h : s.Named) (now : Nat) (classes : List TrafficClass) (name : String) :
    (s.replace now classes).1.queue? name =
      match classes.find? (·.name = name) with
      | some c => some (s.carried now c)
      | none => if name = TrafficClass.defaultName then some s.fallback else none := by
  have hnamed := h.replace now classes
  cases hfind : classes.find? (·.name = name) with
  | some c =>
    have hname := List.find?_some hfind
    obtain rfl := of_decide_eq_true hname
    have hlisted : s.carried now c ∈ s.assembled now classes :=
      List.mem_append_left _ (List.mem_map_of_mem (mem_firstByName_iff.2 hfind))
    refine (queue?_eq_some_iff hnamed).2 ⟨(mem_queues_replace h).2 hlisted, ?_⟩
    exact congrArg TrafficClass.name (s.carried_definition now c)
  | none =>
    dsimp only
    split
    · rename_i hdefault
      subst hdefault
      have hnone : (firstByName classes).any TrafficClass.isDefault = false := by
        rw [← find?_firstByName] at hfind
        exact List.any_eq_false.2 (List.find?_eq_none.1 hfind)
      have hstays : s.fallback ∈ s.assembled now classes := by
        rw [assembled, hnone, if_neg Bool.false_ne_true]
        exact List.mem_append_right _ (List.mem_singleton_self _)
      exact (queue?_eq_some_iff hnamed).2 ⟨(mem_queues_replace h).2 hstays, h.last⟩
    · rename_i hother
      rw [queue?_eq_none_iff, mem_names_replace h]
      rintro (hlisted | hdefault)
      · exact find?_eq_none_iff.1 hfind hlisted
      · exact hother hdefault

/-- A queue under a name afterwards is the one carried over to the class listed there, or the default one as it was. -/
theorem queue?_replace_cases (h : s.Named) (hq : (s.replace now classes).1.queue? name = some q) :
    (∃ c, classes.find? (·.name = name) = some c ∧ c.name = name ∧ q = s.carried now c) ∨
      (classes.find? (·.name = name) = none ∧ name = TrafficClass.defaultName ∧ q = s.fallback) := by
  rw [queue?_replace h] at hq
  cases hfind : classes.find? (·.name = name) with
  | some c =>
    rw [hfind] at hq
    have hname := List.find?_some hfind
    exact .inl ⟨c, rfl, of_decide_eq_true hname, (Option.some.inj hq).symm⟩
  | none =>
    rw [hfind] at hq
    dsimp only at hq
    split at hq
    · rename_i hdefault
      exact .inr ⟨rfl, hdefault, (Option.some.inj hq).symm⟩
    · cases hq

/-! ## What is kept and what is given up -/

theorem continues_carried {old : ClassQueue} (hold : s.queue? c.name = some old) :
    old.Continues (s.carried now c) now := by
  rw [carried, hold]
  exact old.continues_redefine c now

theorem fresh_carried (hnone : s.queue? c.name = none) : (s.carried now c).Fresh now := by
  rw [carried, hnone]
  exact ClassQueue.fresh_new c now

/-- The packets that are given up are those under names that are neither listed nor that of the default class. -/
theorem released_replace (h : s.Named) (now : Nat) (classes : List TrafficClass) :
    (s.replace now classes).2 =
      (s.queues.filter fun q => q.name ∉ classes.map TrafficClass.name ∧ q.name ≠ TrafficClass.defaultName).flatMap
        ClassQueue.packets := by
  have hlast : s.fallback.name = TrafficClass.defaultName := h.last
  have hsame : ∀ q ∈ s.ranked, (q.name ∉ otherNames classes ↔
      q.name ∉ classes.map TrafficClass.name ∧ q.name ≠ TrafficClass.defaultName) := by
    intro q hq
    have hne : q.name ≠ TrafficClass.defaultName := fun he => h.others (he ▸ List.mem_map_of_mem hq)
    rw [and_iff_left hne, mem_otherNames_iff hne]
  rw [replace_snd h, queues, List.filter_append, List.filter_singleton]
  simp only [hlast, ne_eq, not_true, and_false, decide_false, List.append_nil, cond_false]
  refine congrArg (List.flatMap ClassQueue.packets) (List.filter_congr fun q hq => ?_)
  exact decide_eq_decide.2 (hsame q hq)

/-! ## Every history -/

/-- What became of a scheduler and of the packets in it, from one set of classes to a new one. -/
structure Replaced (s : Scheduler) (now : Nat) (classes : List TrafficClass) (s' : Scheduler) (gone : List Packet) :
    Prop where
  /-- No name stands twice. -/
  distinct : s'.names.Nodup
  /-- The names are those listed and that of the default class. -/
  names : ∀ name, name ∈ s'.names ↔ name ∈ classes.map TrafficClass.name ∨ name = TrafficClass.defaultName
  /-- Of the classes listed under a name the first one counts. -/
  listed : ∀ name c, classes.find? (·.name = name) = some c → ∃ q, s'.queue? name = some q ∧ q.definition = c
  /-- A class whose name was there keeps what it has. -/
  kept : ∀ name old q, s.queue? name = some old → s'.queue? name = some q → old.Continues q now
  /-- A class whose name was not there has nothing. -/
  made : ∀ name q, s.queue? name = none → s'.queue? name = some q → q.Fresh now
  /-- The default class was there and is there, as it was if it is not listed. -/
  default : ∃ old q, s.queue? TrafficClass.defaultName = some old ∧ s'.queue? TrafficClass.defaultName = some q ∧
    old.Continues q now ∧ (TrafficClass.defaultName ∉ classes.map TrafficClass.name → q = old)
  /-- The packets given up are those of the classes not listed but the default one. -/
  released : gone.Perm
    ((s.queues.filter fun q => q.name ∉ classes.map TrafficClass.name ∧ q.name ≠ TrafficClass.defaultName).flatMap
      ClassQueue.packets)
  /-- A packet is given up or waits, once. -/
  once : (gone ++ s'.waiting).Perm s.waiting

theorem Named.replaced (h : s.Named) (now : Nat) (classes : List TrafficClass) :
    s.Replaced now classes (s.replace now classes).1 (s.replace now classes).2 := by
  have hkept : ∀ name old q, s.queue? name = some old → (s.replace now classes).1.queue? name = some q →
      old.Continues q now := by
    intro name old q hold hq
    rcases queue?_replace_cases h hq with ⟨c, -, rfl, rfl⟩ | ⟨-, rfl, rfl⟩
    · exact continues_carried hold
    · obtain rfl := Option.some.inj ((queue?_default h).symm.trans hold)
      exact s.fallback.continues_self now
  constructor
  case distinct => exact (h.replace now classes).nodup_names
  case names => exact fun name => mem_names_replace h
  case listed =>
    intro name c hfind
    refine ⟨s.carried now c, ?_, s.carried_definition now c⟩
    rw [queue?_replace h, hfind]
  case kept => exact hkept
  case made =>
    intro name q hnone hq
    rcases queue?_replace_cases h hq with ⟨c, -, rfl, rfl⟩ | ⟨-, rfl, -⟩
    · exact fresh_carried hnone
    · rw [queue?_default h] at hnone
      cases hnone
  case default =>
    have hthere : TrafficClass.defaultName ∈ (s.replace now classes).1.names := (mem_names_replace h).2 (.inr rfl)
    cases hq : (s.replace now classes).1.queue? TrafficClass.defaultName with
    | none => exact absurd hthere (queue?_eq_none_iff.1 hq)
    | some q =>
      have hold := queue?_default h
      refine ⟨s.fallback, q, hold, rfl, hkept _ _ _ hold hq, fun hunlisted => ?_⟩
      rcases queue?_replace_cases h hq with ⟨c, hfind, -⟩ | ⟨-, -, he⟩
      · rw [find?_eq_none_iff.2 hunlisted] at hfind
        cases hfind
      · exact he
  case released => exact .of_eq (released_replace h now classes)
  case once => exact waiting_replace h now classes

end Scheduler

namespace ShapingState

open Scheduler

/-- In every state a scheduler comes to, a new set of classes keeps the queues of the names that stay, makes new ones
for the names that are new, and gives up the packets of the names that go, but never of the default class. -/
theorem replaced_run (born : Nat) (events : List ShapingEvent) (now : Nat) (classes : List TrafficClass) :
    let s := ((start born).run events).scheduler
    s.Replaced now classes (s.replace now classes).1 (s.replace now classes).2 :=
  (named_run (named_new born) events).replaced now classes

/-- A packet on its way to a server. -/
def posted (protocol : Protocol) : Packet :=
  .new [] "lan0" ⟨some (.v4 0x0A000001), some (.v4 0x0A000002), protocol, 1000, 80, 0⟩

/-- One packet waits in each of two classes. -/
def posting : List ShapingEvent :=
  [.add { TrafficClass.plain "keep" 5 with protocol := some .udp },
    .add { TrafficClass.plain "gone" 4 with protocol := some .tcp },
    .enqueue (posted .udp), .enqueue (posted .tcp)]

/-- Of the two classes one is listed, twice, behind a new one. -/
theorem replaced_posting :
    ∃ old q, ((start 0).run posting).scheduler.queue? "keep" = some old ∧
      (((start 0).run posting).scheduler.replace 0 [.plain "new" 3, .plain "keep" 1, .plain "keep" 9]).1.queue? "keep" =
        some q ∧
      q.definition = .plain "keep" 1 ∧ q.packets = [posted .udp] ∧
      (((start 0).run posting).scheduler.replace 0 [.plain "new" 3, .plain "keep" 1, .plain "keep" 9]).2.Perm
        [posted .tcp] := by
  have h := replaced_run 0 posting 0 [.plain "new" 3, .plain "keep" 1, .plain "keep" 9]
  obtain ⟨q, hq, hdefinition⟩ := h.listed "keep" (.plain "keep" 1) (by decide)
  obtain ⟨old, hold⟩ : ∃ old, ((start 0).run posting).scheduler.queue? "keep" = some old :=
    Option.isSome_iff_exists.1 (by decide)
  have hpackets : (((start 0).run posting).scheduler.queue? "keep").map ClassQueue.packets = some [posted .udp] := by
    decide
  rw [hold, Option.map_some, Option.some.injEq] at hpackets
  exact ⟨old, q, hold, hq, hdefinition, (h.kept "keep" old q hold hq).packets.trans hpackets, h.released⟩

end ShapingState

end Router
