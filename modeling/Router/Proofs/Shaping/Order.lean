import Router.Proofs.Ranking
import Router.Proofs.Shaping.History

/-!
# The order of the classes

A scheduler keeps the default class apart, but its queues are one list under one order: any class is ahead of the
default one, and of two others the one of higher priority (`TrafficClass.ahead`). Adding, redefining and replacing
classes ranks that list anew (`queues_add`, `queues_update?`, `queues_replace`), and removing one leaves the rest where
they are (`queues_remove?`). So after every history the list is in order (`inOrder_run`). A packet is offered to the
queue in one place of the list, that of the first class but the default one that matches it, or else the last place,
which is that of the default class, and there it waits last or is given up (`files`). Main statement: `arranged_run`.
-/

namespace Router

/-! ## One order for all classes -/

namespace TrafficClass

variable {a b c : TrafficClass}

/-- Whether a class is served ahead of another: every class of the default one, else by priority. -/
def ahead (a b : TrafficClass) : Bool :=
  (!a.isDefault && b.isDefault) || (a.isDefault == b.isDefault && a.before b)

theorem isDefault_eq_true_iff : c.isDefault = true ↔ c.name = defaultName :=
  decide_eq_true_iff

theorem isDefault_eq_false_iff : c.isDefault = false ↔ c.name ≠ defaultName :=
  decide_eq_false_iff_not

/-- Whether a packet goes to a class for what the class says: it is not the default one, and it matches. -/
def takes (c : TrafficClass) (p : Packet) : Bool :=
  !c.isDefault && c.isMatch p

theorem before_eq_false_iff : b.before a = false ↔ b.priority ≤ a.priority := by
  rw [before, decide_eq_false_iff_not, Int32.not_lt]

theorem ahead_of_others (ha : a.isDefault = false) (hb : b.isDefault = false) : a.ahead b = a.before b := by
  simp [ahead, ha, hb]

theorem ahead_default (ha : a.isDefault = false) (hb : b.isDefault = true) :
    a.ahead b = true ∧ b.ahead a = false := by
  simp [ahead, ha, hb]

theorem ahead_eq_true_iff : a.ahead b = true ↔
    (a.isDefault = false ∧ b.isDefault = true) ∨
      (a.isDefault = b.isDefault ∧ b.priority.toInt < a.priority.toInt) := by
  simp [ahead, before, Int32.lt_iff_toInt_lt]

theorem isRanking_ahead : Ranking.IsRanking ahead where
  asymm a b h := by
    rw [← Bool.not_eq_true]
    rw [ahead_eq_true_iff] at h ⊢
    rintro (⟨hb, ha⟩ | ⟨hsame, hlt⟩)
    · rcases h with ⟨ha', -⟩ | ⟨hsame, -⟩
      · simp [ha] at ha'
      · simp [ha, hb] at hsame
    · rcases h with ⟨ha, hb⟩ | ⟨-, hlt'⟩
      · simp [ha, hb] at hsame
      · omega
  between a b c h := by
    rw [ahead_eq_true_iff] at h ⊢
    rw [ahead_eq_true_iff]
    revert h
    cases a.isDefault <;> cases b.isDefault <;> cases c.isDefault <;> simp
    all_goals omega

/-- The names of classes are distinct, one class, the last, is the default one, and the others stand by descending
priority. -/
def Arranged (classes : List TrafficClass) : Prop :=
  (classes.map name).Nodup ∧ ∃ others last, classes = others ++ [last] ∧ last.name = defaultName ∧
    (∀ c ∈ others, c.name ≠ defaultName) ∧ others.Pairwise fun a b => b.priority ≤ a.priority

end TrafficClass

namespace Scheduler

variable {s s' : Scheduler} {now : Nat} {c : TrafficClass} {name : String} {gone : List Packet} {p : Packet}

/-- Queues in the order they are served, the default one among them. -/
def rankAll (queues : List ClassQueue) : List ClassQueue :=
  Ranking.rank (fun a b => a.definition.ahead b.definition) queues

/-- The default queue comes last, wherever it stood, and the others by priority. -/
theorem rankAll_eq {before after : List ClassQueue} {d : ClassQueue} (hd : d.definition.isDefault = true)
    (hbefore : ∀ q ∈ before, q.definition.isDefault = false) (hafter : ∀ q ∈ after, q.definition.isDefault = false) :
    rankAll (before ++ d :: after) = rank (before ++ after) ++ [d] :=
  Ranking.rank_last (fun q : ClassQueue => q.definition.isDefault = false)
    (fun _ _ => TrafficClass.ahead_of_others) (fun _ hq => TrafficClass.ahead_default hq hd) hbefore hafter

theorem rankAll_append_default {others : List ClassQueue} {d : ClassQueue} (hd : d.definition.isDefault = true)
    (hothers : ∀ q ∈ others, q.definition.isDefault = false) : rankAll (others ++ [d]) = rank others ++ [d] := by
  have hnone : ∀ q ∈ ([] : List ClassQueue), q.definition.isDefault = false := fun _ h => nomatch h
  rw [rankAll_eq hd hothers hnone, List.append_nil]

/-- No class is ahead of one in front of it. -/
def InOrder (s : Scheduler) : Prop :=
  Ranking.Sorted TrafficClass.ahead s.classes

theorem inOrder_of_rankAll {queues : List ClassQueue} (h : s.queues = rankAll queues) : s.InOrder := by
  have hrank : Ranking.IsRanking fun a b : ClassQueue => a.definition.ahead b.definition :=
    ⟨fun _ _ => TrafficClass.isRanking_ahead.asymm _ _, fun _ _ _ => TrafficClass.isRanking_ahead.between _ _ _⟩
  rw [InOrder, classes, h, Ranking.Sorted, List.pairwise_map]
  exact Ranking.sorted_rank hrank queues

theorem Named.ranked_isDefault (h : s.Named) : ∀ q ∈ s.ranked, q.definition.isDefault = false := by
  intro q hq
  refine TrafficClass.isDefault_eq_false_iff.2 fun hname => h.others ?_
  rw [← hname]
  exact List.mem_map_of_mem hq

theorem Named.fallback_isDefault (h : s.Named) : s.fallback.definition.isDefault = true :=
  TrafficClass.isDefault_eq_true_iff.2 h.last

/-! ## Changing the classes -/

theorem queues_add (h : s.Named) (ha : s.add now c = .ok s') :
    s'.queues = rankAll (s.queues ++ [ClassQueue.new c now]) := by
  have hnamed := h.add ha
  unfold Scheduler.add at ha
  split at ha
  · cases ha
  · cases ha
    have hnew : c.isDefault = false := by
      refine hnamed.ranked_isDefault (ClassQueue.new c now) ?_
      exact (Ranking.rank_perm _ _).mem_iff.2 (List.mem_append_right _ (List.mem_singleton_self _))
    rw [queues, queues, List.append_assoc, List.singleton_append,
      rankAll_eq h.fallback_isDefault h.ranked_isDefault (List.forall_mem_singleton.2 hnew)]

theorem queues_remove? (hr : s.remove? name = some (s', gone)) :
    s'.queues = s.queues.eraseP (·.definition.name = name) := by
  unfold Scheduler.remove? at hr
  split at hr
  · cases hr
  · obtain ⟨q, hq, he⟩ := Option.map_eq_some_iff.1 hr
    cases he
    have hname := List.find?_some hq
    exact (List.eraseP_append_left (p := fun q => q.definition.name = name) hname [s.fallback]
      (List.mem_of_find?_eq_some hq)).symm

theorem InOrder.ranked (h : s.Named) (horder : s.InOrder) :
    Ranking.Sorted (fun a b : ClassQueue => a.definition.before b.definition) s.ranked := by
  rw [InOrder, classes_eq, Ranking.Sorted] at horder
  have hranked := List.pairwise_map.1 (List.pairwise_append.1 horder).1
  refine hranked.imp_of_mem fun {a b} ha hb hab => ?_
  rwa [TrafficClass.ahead_of_others (h.ranked_isDefault b hb) (h.ranked_isDefault a ha)] at hab

theorem queues_update? (h : s.Named) (horder : s.InOrder) (hu : s.update? now c = some s') :
    s'.queues = rankAll (s.queues.map fun q => if q.definition.name = c.name then q.redefine c now else q) := by
  have hlast : s.fallback.definition.name = TrafficClass.defaultName := h.last
  unfold Scheduler.update? at hu
  rw [queues, queues, List.map_append, List.map_singleton, hlast]
  split at hu
  · rename_i hdefault
    cases hu
    have hname := TrafficClass.isDefault_eq_true_iff.1 hdefault
    -- No other class has the name of the default one, and the others are in order already.
    have hsame : s.ranked.map (fun q => if q.definition.name = c.name then q.redefine c now else q) = s.ranked := by
      refine (List.map_congr_left fun q hq => ?_).trans (List.map_id _)
      rw [if_neg (hname ▸ TrafficClass.isDefault_eq_false_iff.1 (h.ranked_isDefault q hq)), id]
    rw [if_pos hname.symm, hsame, rankAll_append_default hdefault h.ranked_isDefault, rank,
      Ranking.rank_of_sorted (horder.ranked h)]
  · rename_i hother
    have hother := eq_false_of_ne_true hother
    have hne := TrafficClass.isDefault_eq_false_iff.1 hother
    split at hu
    · cases hu
      rw [if_neg hne.symm, rankAll_append_default h.fallback_isDefault]
      intro q hq
      obtain ⟨r, hr, rfl⟩ := List.mem_map.1 hq
      split
      · exact hother
      · exact h.ranked_isDefault r hr
    · cases hu

theorem firstByName_append_singleton (classes : List TrafficClass) (c : TrafficClass) :
    firstByName (classes ++ [c]) =
      if (firstByName classes).any (·.name = c.name) then firstByName classes else firstByName classes ++ [c] := by
  rw [firstByName, List.foldl_append]
  rfl

/-- Of several classes of one name the first is not left out. -/
theorem find?_firstByName (classes : List TrafficClass) (name : String) :
    (firstByName classes).find? (·.name = name) = classes.find? (·.name = name) := by
  induction classes using List.reverseRecOn with
  | nil => rfl
  | append_singleton classes c ih =>
    rw [firstByName_append_singleton, List.find?_append, ← ih]
    split
    · rename_i hthere
      obtain ⟨k, hk, hname⟩ := List.any_eq_true.1 hthere
      cases hfind : (firstByName classes).find? (·.name = name) with
      | some d => rfl
      | none =>
        have hother := List.find?_eq_none.1 hfind k hk
        rw [of_decide_eq_true hname] at hother
        exact (List.find?_eq_none.2 (by simpa using hother)).symm
    · rw [List.find?_append]

/-- The queue that a class has in a new set of classes: the one of its name under the new definition, else a new one. -/
def carried (s : Scheduler) (now : Nat) (c : TrafficClass) : ClassQueue :=
  match s.queue? c.name with
  | some q => q.redefine c now
  | none => ClassQueue.new c now

/-- The queues of a new set of classes, with the default queue as it was if the set has none. -/
def assembled (s : Scheduler) (now : Nat) (classes : List TrafficClass) : List ClassQueue :=
  (firstByName classes).map (s.carried now) ++
    if (firstByName classes).any TrafficClass.isDefault then [] else [s.fallback]

theorem carried_definition (s : Scheduler) (now : Nat) (c : TrafficClass) : (s.carried now c).definition = c := by
  unfold carried
  split <;> rfl

theorem queue?_of_other (h : s.Named) (hname : name ≠ TrafficClass.defaultName) :
    s.queue? name = s.ranked.find? (·.definition.name = name) := by
  have hlast : ¬ s.fallback.definition.name = name := fun he => hname (he.symm.trans h.last)
  simp [queue?, queues, hlast]

theorem queue?_default (h : s.Named) : s.queue? TrafficClass.defaultName = some s.fallback := by
  have hlast : s.fallback.definition.name = TrafficClass.defaultName := h.last
  have hnone : s.ranked.find? (·.definition.name = TrafficClass.defaultName) = none := by
    refine List.find?_eq_none.2 fun q hq => ?_
    simpa using TrafficClass.isDefault_eq_false_iff.1 (h.ranked_isDefault q hq)
  simp [queue?, queues, hnone, hlast]

theorem carried_of_other (h : s.Named) (hc : c.isDefault = false) : s.carried now c = s.installed now c := by
  rw [carried, queue?_of_other h (TrafficClass.isDefault_eq_false_iff.1 hc)]
  rfl

theorem map_carried_of_others (h : s.Named) {others : List TrafficClass} (ho : ∀ c ∈ others, c.isDefault = false) :
    others.map (s.carried now) = others.map (s.installed now) :=
  List.map_congr_left fun c hc => carried_of_other h (ho c hc)

theorem queues_replace (h : s.Named) (now : Nat) (classes : List TrafficClass) :
    (s.replace now classes).1.queues = rankAll (s.assembled now classes) := by
  have hranked := s.replace_ranked now classes
  have hdefinitions : ∀ others : List TrafficClass, (∀ c ∈ others, c.isDefault = false) →
      ∀ q ∈ others.map (s.installed now), q.definition.isDefault = false := by
    intro others ho q hq
    obtain ⟨c, hc, rfl⟩ := List.mem_map.1 hq
    rw [← carried_of_other h (ho c hc), carried_definition]
    exact ho c hc
  rw [queues, hranked, assembled]
  cases hfind : (firstByName classes).find? TrafficClass.isDefault with
  | none =>
    have hothers : ∀ c ∈ firstByName classes, c.isDefault = false := by simpa using List.find?_eq_none.1 hfind
    have hfallback : (s.replace now classes).1.fallback = s.fallback := by simp [replace, hfind]
    have hfilter : (firstByName classes).filter (fun c => !c.isDefault) = firstByName classes :=
      List.filter_eq_self.2 fun c hc => by simp [hothers c hc]
    have hany : (firstByName classes).any TrafficClass.isDefault = false := by
      simpa using hothers
    rw [hany, hfallback, hfilter, map_carried_of_others h hothers, if_neg (by simp),
      rankAll_append_default h.fallback_isDefault (hdefinitions _ hothers)]
  | some c =>
    obtain ⟨hc, before, after, hlisted, hbefore⟩ := List.find?_eq_some_iff_append.1 hfind
    have hname := TrafficClass.isDefault_eq_true_iff.1 hc
    have hbefore : ∀ b ∈ before, b.isDefault = false := by simpa using hbefore
    have hafter : ∀ b ∈ after, b.isDefault = false := by
      intro b hb
      refine TrafficClass.isDefault_eq_false_iff.2 fun hb' => ?_
      have hnodup := nodup_firstByName classes
      rw [hlisted, List.map_append, List.map_cons] at hnodup
      have hc := (List.nodup_cons.1 (List.nodup_append.1 hnodup).2.1).1
      exact hc (List.mem_map.2 ⟨b, hb, hb'.trans hname.symm⟩)
    have hfallback : (s.replace now classes).1.fallback = s.fallback.redefine c now := by simp [replace, hfind]
    have hcarried : s.carried now c = s.fallback.redefine c now := by rw [carried, hname, queue?_default h]
    have hfilter : (firstByName classes).filter (fun c => !c.isDefault) = before ++ after := by
      rw [hlisted, List.filter_append, List.filter_cons_of_neg (by simp [hc]),
        List.filter_eq_self.2 fun c hc => by simp [hbefore c hc],
        List.filter_eq_self.2 fun c hc => by simp [hafter c hc]]
    have hany : (firstByName classes).any TrafficClass.isDefault = true := by simp [hlisted, hc]
    rw [hany, hfallback, hfilter, hlisted, List.map_append, List.map_append, List.map_cons, hcarried,
      map_carried_of_others h hbefore, map_carried_of_others h hafter, if_pos rfl, List.append_nil,
      rankAll_eq hc (hdefinitions _ hbefore) (hdefinitions _ hafter)]

/-! ## What is refused -/

/-- The names of all classes in the order they are served. -/
def names (s : Scheduler) : List String :=
  s.classes.map TrafficClass.name

theorem names_eq (h : s.Named) : s.names = s.rankedNames ++ [TrafficClass.defaultName] := by
  have hlast : s.fallback.definition.name = TrafficClass.defaultName := h.last
  rw [names, classes_eq, List.map_append, List.map_map, List.map_singleton, hlast]
  rfl

theorem names_eq_map (s : Scheduler) : s.names = s.queues.map ClassQueue.name := by
  rw [names, classes, List.map_map]
  rfl

theorem Named.nodup_names (h : s.Named) : s.names.Nodup := by
  rw [names_eq h]
  exact (List.perm_append_singleton _ _).nodup_iff.2 (List.nodup_cons.2 ⟨h.others, h.distinct⟩)

theorem queue?_eq_none_iff : s.queue? name = none ↔ name ∉ s.names := by
  simp [queue?, names, classes]

theorem any_ranked_iff : s.ranked.any (·.definition.name = name) = true ↔ name ∈ s.rankedNames := by
  simp [rankedNames, ClassQueue.name]

/-- A name that is there, a name that is not, or the default class: a scheduler refuses to add the first, to change or
remove the second, and to remove the third. -/
def Refuses (s : Scheduler) : ShapingEvent → Prop
  | .add c => c.name ∈ s.names
  | .update c => c.name ∉ s.names
  | .remove name => name ∉ s.names ∨ name = TrafficClass.defaultName
  | _ => False

theorem add_error_iff : (∃ e, s.add now c = .error e) ↔ c.name ∈ s.names := by
  unfold Scheduler.add
  split
  · rename_i hthere
    rw [Option.isSome_iff_ne_none, ne_eq, queue?_eq_none_iff, Classical.not_not] at hthere
    simp [hthere]
  · rename_i hfree
    rw [Option.isSome_iff_ne_none, ne_eq, Classical.not_not, queue?_eq_none_iff] at hfree
    simp [hfree]

theorem update?_eq_none_iff (h : s.Named) : s.update? now c = none ↔ c.name ∉ s.names := by
  rw [names_eq h, List.mem_append, List.mem_singleton, ← any_ranked_iff]
  unfold Scheduler.update?
  split
  · rename_i hdefault
    simp [TrafficClass.isDefault_eq_true_iff.1 hdefault]
  · rename_i hother
    have hne := TrafficClass.isDefault_eq_false_iff.1 (eq_false_of_ne_true hother)
    split
    · rename_i hthere
      simp only [hthere, true_or, not_true, reduceCtorEq]
    · rename_i hnone
      simp [hnone, hne]

theorem remove?_eq_none_iff (h : s.Named) :
    s.remove? name = none ↔ name ∉ s.names ∨ name = TrafficClass.defaultName := by
  rw [names_eq h, List.mem_append, List.mem_singleton, ← any_ranked_iff]
  unfold Scheduler.remove?
  split
  · rename_i hdefault
    simp [hdefault]
  · rename_i hne
    simp [hne]

/-! ## The place of a packet -/

/-- The class that a packet goes to: the first but the default one that matches it, if there is one. -/
def classFor? (s : Scheduler) (p : Packet) : Option TrafficClass :=
  s.classes.find? (·.takes p)

/-- The place in the list of queues that a packet goes to: that of the first class but the default one that matches it,
else the last. -/
def slot (s : Scheduler) (p : Packet) : Nat :=
  (s.classes.findIdx? (·.takes p)).getD (s.classes.length - 1)

/-- A packet is offered to the queue in its place, which is one of the first class but the default one that matches it,
else one of the default class; there it waits last or is given up, and no other queue changes. -/
def Files (s : Scheduler) (p : Packet) : Prop :=
  ∃ q, s.queues[s.slot p]? = some q ∧
    (s.enqueue p).1 = (q.offer p).1 ∧ (s.enqueue p).2.queues = s.queues.set (s.slot p) (q.offer p).2 ∧
    q.Filed p (s.enqueue p).1 (q.offer p).2 ∧
    match s.classFor? p with
    | some c => q.definition = c
    | none => q.definition.name = TrafficClass.defaultName

theorem files_of_split (before : List ClassQueue) (q : ClassQueue) (after : List ClassQueue)
    (hs : s.queues = before ++ q :: after)
    (hslot : s.slot p = before.length) (ha : (s.enqueue p).1 = (q.offer p).1)
    (hs' : (s.enqueue p).2.queues = before ++ (q.offer p).2 :: after)
    (hclass : match s.classFor? p with
      | some c => q.definition = c
      | none => q.definition.name = TrafficClass.defaultName) : s.Files p := by
  refine ⟨q, ?_, ha, ?_, ha ▸ q.filed_offer p, hclass⟩
  · simp [hs, hslot]
  · simp [hs', hs, hslot]

theorem not_takes {qs : List ClassQueue} (hno : ∀ q ∈ qs, q.definition.isMatch p = false) :
    ∀ c ∈ qs.map ClassQueue.definition, ¬ c.takes p = true := by
  intro c hc
  obtain ⟨q, hq, rfl⟩ := List.mem_map.1 hc
  simp [TrafficClass.takes, hno q hq]

theorem files_of_match (h : s.Named) {a : Admission} {ranked : List ClassQueue}
    (hoffer : offerFirst? p s.ranked = some (a, ranked)) : s.Files p := by
  obtain ⟨before, q, after, hranked, hbefore, hq, rfl, rfl⟩ := offerFirst?_eq_some hoffer
  have htakes : q.definition.takes p = true := by
    simp [TrafficClass.takes, hq, h.ranked_isDefault q (by simp [hranked])]
  have hclasses : s.classes = before.map ClassQueue.definition ++
      q.definition :: (after ++ [s.fallback]).map ClassQueue.definition := by simp [classes, queues, hranked]
  have hnone := not_takes hbefore
  have hslot : s.slot p = before.length := by
    rw [slot, hclasses, List.findIdx?_append, List.findIdx?_eq_none_iff.2 (by simpa using hnone)]
    simp [List.findIdx?_cons, htakes]
  have hfor : s.classFor? p = some q.definition := by
    rw [classFor?, hclasses, List.find?_append, List.find?_eq_none.2 hnone]
    simp [htakes]
  refine files_of_split before q (after ++ [s.fallback]) (by simp [queues, hranked]) hslot ?_ ?_ ?_
  · simp [enqueue, hoffer]
  · simp [enqueue, hoffer, queues]
  · rw [hfor]

theorem files_of_no_match (h : s.Named) (hoffer : offerFirst? p s.ranked = none) : s.Files p := by
  have hnone : ∀ c ∈ s.classes, ¬ c.takes p = true := by
    rw [classes_eq]
    refine List.forall_mem_append.2 ⟨not_takes (offerFirst?_eq_none hoffer), ?_⟩
    simp [TrafficClass.takes, h.fallback_isDefault]
  have hslot : s.slot p = s.ranked.length := by
    rw [slot, List.findIdx?_eq_none_iff.2 (by simpa using hnone), classes_eq]
    simp
  have hfor : s.classFor? p = none := List.find?_eq_none.2 hnone
  refine files_of_split s.ranked s.fallback [] rfl hslot ?_ ?_ ?_
  · simp [enqueue, hoffer]
  · simp [enqueue, hoffer, queues]
  · rw [hfor]
    exact h.last

theorem files (h : s.Named) (p : Packet) : s.Files p := by
  cases hoffer : offerFirst? p s.ranked with
  | some r => exact files_of_match h hoffer
  | none => exact files_of_no_match h hoffer

/-! ## Every history -/

theorem arranged (h : s.Named) (horder : s.InOrder) : TrafficClass.Arranged s.classes := by
  refine ⟨h.nodup_names, s.ranked.map ClassQueue.definition, s.fallback.definition, s.classes_eq, h.last, ?_, ?_⟩
  · intro c hc
    obtain ⟨q, hq, rfl⟩ := List.mem_map.1 hc
    exact TrafficClass.isDefault_eq_false_iff.1 (h.ranked_isDefault q hq)
  · rw [List.pairwise_map]
    exact (horder.ranked h).imp TrafficClass.before_eq_false_iff.1

theorem inOrder_new (now : Nat) : (new now).InOrder :=
  List.pairwise_singleton _ _

theorem InOrder.of_classes (h : s.InOrder) (hclasses : s'.classes = s.classes) : s'.InOrder := by
  rw [InOrder, hclasses]
  exact h

theorem InOrder.remove? (h : s.InOrder) (hr : s.remove? name = some (s', gone)) : s'.InOrder := by
  have hsub := (List.eraseP_sublist (p := fun q : ClassQueue => q.definition.name = name) (l := s.queues)).map
    ClassQueue.definition
  rw [← queues_remove? hr] at hsub
  exact List.Pairwise.sublist hsub h

end Scheduler

namespace ShapingState

open Scheduler

theorem inOrder_step {s : ShapingState} (hnamed : s.scheduler.Named) (h : s.scheduler.InOrder) (e : ShapingEvent) :
    (s.step e).scheduler.InOrder := by
  have htold := s.told_step e
  generalize (s.step e).scheduler = s' at htold ⊢
  cases htold with
  | waited duration => exact h
  | failed => exact h
  | enqueued p => exact h.of_classes (s.scheduler.classes_enqueue p)
  | dequeued => exact h.of_classes (s.scheduler.classes_dequeue s.now)
  | added ha => exact inOrder_of_rankAll (queues_add hnamed ha)
  | removed hr => exact h.remove? hr
  | updated hu => exact inOrder_of_rankAll (queues_update? hnamed h hu)
  | replaced classes => exact inOrder_of_rankAll (queues_replace hnamed s.now classes)

theorem inOrder_run {s : ShapingState} (hnamed : s.scheduler.Named) (h : s.scheduler.InOrder)
    (events : List ShapingEvent) : (s.run events).scheduler.InOrder := by
  induction events generalizing s with
  | nil => exact h
  | cons e rest ih => exact ih (named_step hnamed e) (inOrder_step hnamed h e)

theorem fails_iff {s : ShapingState} (h : s.scheduler.Named) (e : ShapingEvent) :
    s.Fails e ↔ s.scheduler.Refuses e := by
  cases e with
  | add c => exact add_error_iff
  | update c => exact update?_eq_none_iff h
  | remove name => exact remove?_eq_none_iff h
  | _ => exact Iff.rfl

theorem step_of_fails {s : ShapingState} {e : ShapingEvent} (h : s.Fails e) : s.step e = s := by
  cases e with
  | add c =>
    obtain ⟨error, ha⟩ := h
    rw [step, ha]
    rfl
  | update c =>
    rw [step, show s.scheduler.update? s.now c = none from h]
    rfl
  | remove name =>
    rw [step, show s.scheduler.remove? name = none from h]
    rfl
  | _ => exact h.elim

/-- In every state a scheduler comes to, the names of its classes are distinct, exactly one class, the last, is the
default one, and the others stand by descending priority. A change of the classes fails exactly where the name forbids
it, and then nothing changes. A packet is offered to the queue of the first class but the default one that matches it,
whatever the default class says, and else to that of the default class; it waits last in that queue or is given up. -/
theorem arranged_run (born : Nat) (events : List ShapingEvent) :
    TrafficClass.Arranged ((start born).run events).scheduler.classes ∧
      (∀ e, (((start born).run events).Fails e ↔ ((start born).run events).scheduler.Refuses e) ∧
        (((start born).run events).Fails e → ((start born).run events).step e = (start born).run events)) ∧
      ∀ p, ((start born).run events).scheduler.Files p := by
  have hnamed := named_run (s := start born) (named_new born) events
  have horder := inOrder_run (s := start born) (named_new born) (inOrder_new born) events
  exact ⟨arranged hnamed horder, fun e => ⟨fails_iff hnamed e, step_of_fails⟩, files hnamed⟩

/-- A default class that says which packets it wants and how soon, among classes of which one is listed twice. -/
def mixedClasses : List TrafficClass :=
  [{ TrafficClass.plain "default" 100 with protocol := some .tcp }, .plain "bulk" (-5), .plain "voice" 10,
    { TrafficClass.plain "bulk" 50 with protocol := some .udp }]

/-- A second class of a name is left out of a list, and refused afterwards. -/
theorem arranged_mixedClasses :
    ((start 0).run [.replace mixedClasses]).scheduler.names = ["voice", "bulk", "default"] ∧
      ((start 0).run [.replace mixedClasses]).Fails (.add (.plain "bulk" 1)) ∧
      ((start 0).run [.replace mixedClasses]).step (.add (.plain "bulk" 1)) =
        (start 0).run [.replace mixedClasses] := by
  obtain ⟨hfails, hsame⟩ := (arranged_run 0 [.replace mixedClasses]).2.1 (.add (.plain "bulk" 1))
  have hthere : "bulk" ∈ ((start 0).run [.replace mixedClasses]).scheduler.names := by decide
  exact ⟨by decide, hfails.2 hthere, hsame (hfails.2 hthere)⟩

end ShapingState

end Router
