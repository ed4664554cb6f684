import Router.Proofs.Plane.Operations

/-!
# From one router to another

A router that was told a snapshot reads back what the snapshot comes to (`Snapshot.settle`,
`Snapshot.ofPlane_install`): of its own configuration nothing is left but the definition of its default class, and that
only where the snapshot lists none (`Snapshot.install_agrees`). The snapshot of a router comes to itself, because its
classes are named once each and in order, and its defaults are one for each chain (`Snapshot.settle_ofPlane`). Main
statement: a router that was told the snapshot of another has its configuration and decides as it does
(`Snapshot.install_ofPlane`).
-/

namespace Router

/-! ## Lists of classes -/

namespace Scheduler

variable {s : Scheduler} {classes : List TrafficClass}

/-- Where each name stands once, none is left out. -/
theorem firstByName_of_nodup (h : (classes.map TrafficClass.name).Nodup) : firstByName classes = classes := by
  induction classes using List.reverseRecOn with
  | nil => rfl
  | append_singleton classes c ih =>
    rw [List.map_append] at h
    obtain ⟨hclasses, -, hnew⟩ := List.nodup_append.1 h
    have hno : ¬ classes.any (·.name = c.name) = true := by
      rw [List.any_eq_true]
      rintro ⟨k, hk, hname⟩
      exact hnew k.name (List.mem_map_of_mem hk) c.name (by simp) (of_decide_eq_true hname)
    rw [firstByName_append_singleton, ih hclasses, if_neg hno]

theorem installed_definition (s : Scheduler) (now : Nat) (c : TrafficClass) :
    (s.installed now c).definition = c := by
  unfold installed
  split <;> rfl

/-- The classes of a new set: those of the list but the default one, each name once, in the order they are served, and
last the default one, which is the old one if the list has none. -/
theorem classes_replace (s : Scheduler) (now : Nat) (classes : List TrafficClass) :
    (s.replace now classes).1.classes =
      Ranking.rank TrafficClass.before ((firstByName classes).filter fun c => !c.isDefault) ++
        [(classes.find? TrafficClass.isDefault).getD s.fallback.definition] := by
  have hfallback : (s.replace now classes).1.fallback.definition =
      (classes.find? TrafficClass.isDefault).getD s.fallback.definition := by
    have hfirst : (firstByName classes).find? TrafficClass.isDefault = classes.find? TrafficClass.isDefault :=
      find?_firstByName classes TrafficClass.defaultName
    rw [← hfirst]
    unfold replace
    dsimp only
    cases (firstByName classes).find? TrafficClass.isDefault <;> rfl
  have hdefinition : ClassQueue.definition ∘ s.installed now = id := funext (s.installed_definition now)
  rw [classes_eq, hfallback, replace_ranked, rank, Ranking.map_rank, List.map_map, hdefinition, List.map_id]

/-- A packet is told the class that takes it, else the default one. -/
theorem className_enqueue (h : s.Named) (p : Packet) :
    (s.enqueue p).1.className = ((s.classFor? p).map TrafficClass.name).getD TrafficClass.defaultName := by
  obtain ⟨q, -, hoffer, -, -, hclass⟩ := files h p
  rw [hoffer, ClassQueue.offer_className]
  cases hfor : s.classFor? p with
  | some c =>
    rw [hfor] at hclass
    exact congrArg TrafficClass.name hclass
  | none =>
    rw [hfor] at hclass
    exact hclass

/-- The classes of a scheduler but the default one. -/
theorem Named.filter_classes (h : s.Named) :
    s.classes.filter (fun c => !c.isDefault) = s.ranked.map ClassQueue.definition := by
  have hothers : ∀ c ∈ s.ranked.map ClassQueue.definition, c.isDefault = false := by simpa using h.ranked_isDefault
  rw [classes_eq, List.filter_append, List.filter_eq_self.2 (by simpa using hothers)]
  simp [h.fallback_isDefault]

theorem Named.find?_classes (h : s.Named) : s.classes.find? TrafficClass.isDefault = some s.fallback.definition := by
  have hothers : ∀ c ∈ s.ranked.map ClassQueue.definition, c.isDefault = false := by simpa using h.ranked_isDefault
  rw [classes_eq, List.find?_append, List.find?_eq_none.2 (by simpa using hothers)]
  simp [h.fallback_isDefault]

end Scheduler

/-! ## What a snapshot comes to -/

namespace Snapshot

/-- What is read back from a router that was told a snapshot: one default for each chain, each class once and in the
order they are served, and the default class last, which is the given one where none is listed. -/
def settle (s : Snapshot) (fallback : TrafficClass) : Snapshot where
  firewallDefaults := s.defaults.entries.map fun (chain, verdict) => ⟨chain, verdict⟩
  firewallRules := s.firewallRules
  natRules := s.natRules
  qosClasses := Ranking.rank TrafficClass.before ((Scheduler.firstByName s.qosClasses).filter fun c => !c.isDefault) ++
    [(s.qosClasses.find? TrafficClass.isDefault).getD fallback]
  routes := s.routes

theorem ofPlane_install (pl : Plane) (now : Nat) (s : Snapshot) :
    ofPlane (pl.install now s).1 = s.settle pl.qos.fallback.definition := by
  have hclasses := pl.qos.classes_replace now s.qosClasses
  have hrules : (Firewall.ofRules s.firewallRules s.defaults).rules = s.firewallRules := RuleList.rules_fresh _
  have hnat : (pl.nat.replaceRules s.natRules).rules = s.natRules := RuleList.rules_fresh _
  rw [ofPlane, settle, ← hclasses]
  simp only [Plane.install, hrules, hnat]
  rfl

/-- A snapshot without its last class. -/
def butLastClass (s : Snapshot) : Snapshot :=
  { s with qosClasses := s.qosClasses.dropLast }

/-- Routers that were told the same snapshot have the same configuration but for the last class, the default one. That
is the first that the snapshot lists, and where it lists none each router keeps the one it had. -/
theorem install_agrees (pl₁ pl₂ : Plane) (now₁ now₂ : Nat) (s : Snapshot) :
    let s₁ := ofPlane (pl₁.install now₁ s).1
    let s₂ := ofPlane (pl₂.install now₂ s).1
    s₁.butLastClass = s₂.butLastClass ∧
      s₁.qosClasses.getLast? = some ((s.qosClasses.find? TrafficClass.isDefault).getD pl₁.qos.fallback.definition) ∧
      s₂.qosClasses.getLast? = some ((s.qosClasses.find? TrafficClass.isDefault).getD pl₂.qos.fallback.definition) ∧
      (s₁ = s₂ ↔ s.qosClasses.any TrafficClass.isDefault = true ∨
        pl₁.qos.fallback.definition = pl₂.qos.fallback.definition) := by
  simp only [ofPlane_install]
  refine ⟨?_, ?_, ?_, ?_⟩
  · simp [butLastClass, settle]
  · simp [settle]
  · simp [settle]
  · rw [← List.isSome_find?]
    cases hfind : s.qosClasses.find? TrafficClass.isDefault <;> simp [settle, hfind]

/-- A default class that is held to a rate. -/
def heldDefault : TrafficClass :=
  { TrafficClass.default with rateKbps := 512 }

/-- A router whose default class was held to a rate keeps the rate when it is told the snapshot without any rule. -/
theorem install_keeps_default :
    ¬ ∀ (pl₁ pl₂ : Plane) (now₁ now₂ : Nat) (s : Snapshot), pl₁.Reachable → pl₂.Reachable →
      ofPlane (pl₁.install now₁ s).1 = ofPlane (pl₂.install now₂ s).1 := by
  intro h
  have hsame := h _ _ 0 0 .empty ⟨.default, [], 0, [], rfl⟩ ⟨.default, [], 0, [.qos (.update heldDefault)], rfl⟩
  exact absurd hsame (by decide)

/-! ## The snapshot of a router -/

variable {pl : Plane}

theorem defaults_ofPlane (pl : Plane) : (ofPlane pl).defaults = pl.firewall.defaults := by
  rw [defaults, ofPlane, List.map_map]
  exact (congrArg PerChain.ofList (List.map_id _)).trans (PerChain.ofList_entries _)

theorem classes_settle_ofPlane (h : pl.Orderly) (fallback : TrafficClass) :
    ((ofPlane pl).settle fallback).qosClasses = pl.qos.classes := by
  have hsorted : Ranking.Sorted TrafficClass.before (pl.qos.ranked.map ClassQueue.definition) :=
    List.pairwise_map.2 (h.inOrder.ranked h.named)
  rw [settle, ofPlane, Scheduler.firstByName_of_nodup h.named.nodup_names, h.named.filter_classes,
    h.named.find?_classes, Ranking.rank_of_sorted hsorted, Scheduler.classes_eq]
  rfl

/-- The snapshot of a router comes to itself. -/
theorem settle_ofPlane (h : pl.Orderly) (fallback : TrafficClass) : (ofPlane pl).settle fallback = ofPlane pl := by
  calc
    (ofPlane pl).settle fallback = { ofPlane pl with
        firewallDefaults := (ofPlane pl).defaults.entries.map fun (chain, verdict) => ⟨chain, verdict⟩
        qosClasses := ((ofPlane pl).settle fallback).qosClasses } := rfl
    _ = ofPlane pl := by
      rw [classes_settle_ofPlane h, defaults_ofPlane]
      rfl

/-- A router that was told the snapshot of another reads it back, finds the routes that the other finds, judges as the
other does on every chain, and has a packet wait in the class of that name and definition. -/
theorem install_ofPlane (a b : Plane) (now : Nat) (h : a.Reachable) :
    let b' := (b.install now (ofPlane a)).1
    ofPlane b' = ofPlane a ∧ (∀ x, b'.routing.lookup x = a.routing.lookup x) ∧
      (∀ chain p, (b'.firewall.evaluate chain p).1 = (a.firewall.evaluate chain p).1) ∧
      ∀ p, b'.qos.classFor? p = a.qos.classFor? p ∧
        (b'.qos.enqueue p).1.className = (a.qos.enqueue p).1.className := by
  have horderly := h.orderly
  have hsame := (ofPlane_install b now (ofPlane a)).trans (settle_ofPlane horderly _)
  have hrouting : (b.install now (ofPlane a)).1.routing = a.routing := horderly.routing.symm
  have hrules : (b.install now (ofPlane a)).1.firewall.rules = a.firewall.rules := congrArg firewallRules hsame
  have hdefaults : (b.install now (ofPlane a)).1.firewall.defaults = a.firewall.defaults := defaults_ofPlane a
  have hclasses : (b.install now (ofPlane a)).1.qos.classes = a.qos.classes := congrArg qosClasses hsame
  have hclass : ∀ p, (b.install now (ofPlane a)).1.qos.classFor? p = a.qos.classFor? p := by
    intro p
    rw [Scheduler.classFor?, hclasses]
    rfl
  refine ⟨hsame, fun x => ?_, fun chain p => Firewall.evaluate_congr hrules hdefaults chain p, fun p => ⟨hclass p, ?_⟩⟩
  · rw [hrouting]
  · rw [Scheduler.className_enqueue (horderly.named.of_classes hclasses), Scheduler.className_enqueue horderly.named,
      hclass]

/-- Set up with classes of equal priority and a default class of its own, and used since. -/
def settledIn : List Operation :=
  [.firewall (.setDefault .forward .accept), .firewall (.add (.forAll .input .reject)),
    .nat (.addRule NatState.oneSource), .qos (.add (.plain "bulk" 5)),
    .qos (.add { TrafficClass.plain "voice" 5 with protocol := some .udp }), .qos (.update heldDefault),
    .routing (.add (.connected (.around (.v4 0) 0) "wan0")), .event (.process (PlaneState.bare .udp)),
    .event (.wait 5), .event (.egress 1 fun _ _ => true), .qos (.remove "bulk"), .qos (.add (.plain "bulk" 5))]

/-- Set up in another way. -/
def standby : List Operation :=
  [.firewall (.setDefault .input .drop), .qos (.add (.plain "voice" 1)), .event (.process (PlaneState.bare .udp))]

/-- The standby takes over from the router in use. -/
theorem standby_takes_over :
    ∃ a b : Plane, a.Reachable ∧ b.Reachable ∧ ofPlane b ≠ ofPlane a ∧
      ofPlane (b.install 9 (ofPlane a)).1 = ofPlane a ∧
      (ofPlane a).qosClasses.map TrafficClass.name = ["voice", "bulk", "default"] := by
  have ha : ((PlaneState.start .default [] 0).operateAll settledIn).plane.Reachable :=
    ⟨.default, [], 0, settledIn, rfl⟩
  have hb : ((PlaneState.start .default [] 0).operateAll standby).plane.Reachable := ⟨.default, [], 0, standby, rfl⟩
  exact ⟨_, _, ha, hb, by decide, (install_ofPlane _ _ 9 ha).1, by decide⟩

end Snapshot

end Router
