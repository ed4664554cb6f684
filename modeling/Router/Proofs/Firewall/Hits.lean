import Mathlib.Algebra.Ring.Nat
import Mathlib.Data.List.DropRight
import Router.Proofs.Assoc
import Router.Proofs.Firewall.History

/-!
# What a filter counts

A filter counts what each rule decided and what was decided on each chain. A packet that a rule decides counts once for
both (`hitsOn_evaluate`, `chainHits_evaluate`). A rule that is removed or replaced takes its hits along, whatever chain
the new one is on, but the chain keeps them; only a restart sets both back (`FirewallEvent.restarts`). Main statement:
in every history the hits of the rules on a chain add up to no more than those of the chain, to as many as long as no
rule went since the last restart, and the chain has one for each packet since then that some rule decided
(`hits_run`).
-/

namespace Router

/-! ## Hits of rules -/

namespace RuleList

variable {ρ : Type} {list after : RuleList ρ} {rule : ρ}

/-- The hits of the rules of a kind. -/
def hitsOf (list : RuleList ρ) (kind : ρ → Bool) : Nat :=
  ((list.filter fun entry => kind entry.rule).map Counted.hits).sum

theorem hitsOf_cons (entry : Counted ρ) (rest : RuleList ρ) (kind : ρ → Bool) :
    hitsOf (entry :: rest) kind = (if kind entry.rule then entry.hits else 0) + hitsOf rest kind := by
  by_cases h : kind entry.rule <;> simp [hitsOf, h]

theorem hitsOf_fresh (rules : List ρ) (kind : ρ → Bool) : (fresh rules).hitsOf kind = 0 := by
  induction rules with
  | nil => rfl
  | cons rule rules ih =>
    have hcons : fresh (rule :: rules) = ⟨rule, 0⟩ :: fresh rules := rfl
    rw [hcons, hitsOf_cons, ih, ite_self]

theorem hitsOf_resetHits (list : RuleList ρ) (kind : ρ → Bool) : list.resetHits.hitsOf kind = 0 := by
  induction list with
  | nil => rfl
  | cons entry rest ih =>
    have hcons : resetHits (entry :: rest) = { entry with hits := 0 } :: resetHits rest := rfl
    rw [hcons, hitsOf_cons, ih, ite_self]

theorem hitsOf_push (list : RuleList ρ) (rule : ρ) (kind : ρ → Bool) :
    (list.push rule).hitsOf kind = list.hitsOf kind := by
  by_cases h : kind rule <;> simp [push, hitsOf, h]

/-- The rule that decides has one hit more. -/
theorem hitsOf_of_decide? {isMatch : ρ → Bool} (h : list.decide? isMatch = some (rule, after)) (kind : ρ → Bool) :
    after.hitsOf kind = list.hitsOf kind + if kind rule then 1 else 0 := by
  induction list generalizing after with
  | nil => cases h
  | cons entry rest ih =>
    rw [decide?] at h
    split at h
    · cases h
      rw [hitsOf_cons, hitsOf_cons]
      dsimp only
      split <;> omega
    · obtain ⟨⟨r, rest'⟩, hr, he⟩ := Option.map_eq_some_iff.1 h
      cases he
      rw [hitsOf_cons, hitsOf_cons, ih hr, Nat.add_assoc]

theorem isSome_decide? (list : RuleList ρ) (isMatch : ρ → Bool) :
    (list.decide? isMatch).isSome = list.rules.any isMatch := by
  rw [← Option.isSome_map (f := Prod.fst), map_fst_decide?, List.isSome_find?]

variable [DecidableEq ρ] {target : ρ}

theorem hitsOf_of_erase? (h : list.erase? target = some after) (kind : ρ → Bool) :
    after.hitsOf kind ≤ list.hitsOf kind := by
  induction list generalizing after with
  | nil => cases h
  | cons entry rest ih =>
    rw [erase?] at h
    rw [hitsOf_cons]
    split at h
    · cases h
      exact Nat.le_add_left _ _
    · obtain ⟨rest', hr, rfl⟩ := Option.map_eq_some_iff.1 h
      rw [hitsOf_cons]
      exact Nat.add_le_add_left (ih hr) _

/-- The new rule starts without hits, of whatever kind it is. -/
theorem hitsOf_of_replace? (h : list.replace? target rule = some after) (kind : ρ → Bool) :
    after.hitsOf kind ≤ list.hitsOf kind := by
  induction list generalizing after with
  | nil => cases h
  | cons entry rest ih =>
    rw [replace?] at h
    rw [hitsOf_cons]
    split at h
    · cases h
      rw [hitsOf_cons, ite_self, Nat.zero_add]
      exact Nat.le_add_left _ _
    · obtain ⟨rest', hr, rfl⟩ := Option.map_eq_some_iff.1 h
      rw [hitsOf_cons]
      exact Nat.add_le_add_left (ih hr) _

end RuleList

/-! ## One event -/

/-- Whether an event sets all counters back. -/
def FirewallEvent.restarts : FirewallEvent → Bool
  | .replace .. | .resetHits => true
  | _ => false

namespace Firewall

variable {f : Firewall} {chain : Chain} {e : FirewallEvent}

/-- The hits of the rules on a chain. -/
def hitsOn (f : Firewall) (chain : Chain) : Nat :=
  f.list.hitsOf fun rule => rule.chain = chain

/-- Whether a rule decides the packet of an event on a chain. -/
def decides (f : Firewall) (chain : Chain) : FirewallEvent → Bool
  | .evaluate c p => c = chain && f.rules.any fun rule => rule.isMatch c p
  | _ => false

/-- Whether an event finds the rule that it is to remove or to replace. -/
def retires (f : Firewall) : FirewallEvent → Bool
  | .remove rule => (f.remove? rule).isSome
  | .update target rule => (f.update? target rule).isSome
  | _ => false

/-- A packet counts for its chain exactly if a rule decides it. -/
theorem chainHits_evaluate (f : Firewall) (chain c : Chain) (p : Packet) :
    (f.evaluate c p).2.chainHits.get chain =
      f.chainHits.get chain + if f.decides chain (.evaluate c p) then 1 else 0 := by
  have hsome := RuleList.isSome_decide? f.list fun rule => rule.isMatch c p
  rw [decides, rules, ← hsome, evaluate]
  cases f.list.decide? fun rule => rule.isMatch c p with
  | none => simp
  | some r =>
    dsimp only
    rw [PerChain.get_set]
    by_cases h : c = chain
    · simp [h]
    · simp [h, Ne.symm h]

/-- A packet counts for a rule on its chain exactly if a rule decides it. -/
theorem hitsOn_evaluate (f : Firewall) (chain c : Chain) (p : Packet) :
    (f.evaluate c p).2.hitsOn chain = f.hitsOn chain + if f.decides chain (.evaluate c p) then 1 else 0 := by
  have hsome := RuleList.isSome_decide? f.list fun rule => rule.isMatch c p
  have hfirst := RuleList.map_fst_decide? f.list fun rule => rule.isMatch c p
  rw [decides, rules, ← hsome, evaluate]
  cases hdecide : f.list.decide? fun rule => rule.isMatch c p with
  | none => simp
  | some r =>
    rw [hdecide] at hfirst
    have hfound : f.list.rules.find? (fun rule => rule.isMatch c p) = some r.1 := hfirst.symm
    have hmatch := List.find?_some hfound
    have hchain : r.1.chain = c := (FilterRule.isMatch_eq_true_iff.1 hmatch).1
    have hhits := RuleList.hitsOf_of_decide? hdecide fun rule => rule.chain = chain
    rw [hchain] at hhits
    simpa [hitsOn] using hhits

/-- An event that restarts nothing and takes no rule away adds as much to the hits of a chain as to those of its
rules; one that takes a rule away adds nothing to either. -/
theorem hits_step (f : Firewall) (chain : Chain) (he : e.restarts = false) :
    (f.step e).chainHits.get chain = f.chainHits.get chain + (if f.decides chain e then 1 else 0) ∧
      (f.step e).hitsOn chain ≤ f.hitsOn chain + (if f.decides chain e then 1 else 0) ∧
      (f.retires e = false → (f.step e).hitsOn chain = f.hitsOn chain + if f.decides chain e then 1 else 0) := by
  cases e with
  | replace | resetHits => cases he
  | evaluate c p =>
    have hhits := f.hitsOn_evaluate chain c p
    exact ⟨f.chainHits_evaluate chain c p, hhits.le, fun _ => hhits⟩
  | add rule =>
    have hhits : (f.step (.add rule)).hitsOn chain = f.hitsOn chain := RuleList.hitsOf_push f.list rule _
    exact ⟨rfl, hhits.le, fun _ => hhits⟩
  | setDefault c verdict => exact ⟨rfl, Nat.le_refl _, fun _ => rfl⟩
  | remove rule =>
    rw [step, retires, remove?]
    cases hlist : f.list.erase? rule with
    | none => exact ⟨rfl, Nat.le_refl _, fun _ => rfl⟩
    | some list => exact ⟨rfl, RuleList.hitsOf_of_erase? hlist _, fun h => by cases h⟩
  | update target rule =>
    rw [step, retires, update?]
    cases hlist : f.list.replace? target rule with
    | none => exact ⟨rfl, Nat.le_refl _, fun _ => rfl⟩
    | some list => exact ⟨rfl, RuleList.hitsOf_of_replace? hlist _, fun h => by cases h⟩

theorem hits_restart (f : Firewall) (chain : Chain) (he : e.restarts = true) :
    (f.step e).chainHits.get chain = 0 ∧ (f.step e).hitsOn chain = 0 := by
  cases e with
  | replace rules defaults => exact ⟨PerChain.get_const 0 chain, RuleList.hitsOf_fresh rules _⟩
  | resetHits => exact ⟨PerChain.get_const 0 chain, RuleList.hitsOf_resetHits f.list _⟩
  | _ => cases he

/-! ## Histories -/

/-- Events, each with the filter that is told it. -/
def moments (f : Firewall) : List FirewallEvent → List (Firewall × FirewallEvent)
  | [] => []
  | e :: rest => (f, e) :: (f.step e).moments rest

/-- The events since the last restart, each with the filter that is told it. -/
def sinceRestart (events : List FirewallEvent) : List (Firewall × FirewallEvent) :=
  (moments empty events).rtakeWhile fun m => !m.2.restarts

theorem moments_append_singleton (f : Firewall) (events : List FirewallEvent) (e : FirewallEvent) :
    f.moments (events ++ [e]) = f.moments events ++ [(events.foldl step f, e)] := by
  induction events generalizing f with
  | nil => rfl
  | cons first rest ih => exact congrArg _ (ih _)

theorem sinceRestart_append_singleton (events : List FirewallEvent) (e : FirewallEvent) :
    sinceRestart (events ++ [e]) = if e.restarts then [] else sinceRestart events ++ [(run events, e)] := by
  rw [sinceRestart, moments_append_singleton, List.rtakeWhile_concat]
  cases e.restarts <;> simp [sinceRestart, run]

/-- The counters of a chain fit what happened since they were last set back. -/
structure Tallied (f : Firewall) (chain : Chain) (since : List (Firewall × FirewallEvent)) : Prop where
  decided : f.chainHits.get chain = since.countP fun m => m.1.decides chain m.2
  bounded : f.hitsOn chain ≤ f.chainHits.get chain
  exact_of_kept : (∀ m ∈ since, m.1.retires m.2 = false) → f.hitsOn chain = f.chainHits.get chain

theorem tallied_of_zero (h : f.chainHits.get chain = 0 ∧ f.hitsOn chain = 0) : f.Tallied chain [] :=
  ⟨h.1, by rw [h.1, h.2], fun _ => by rw [h.1, h.2]⟩

theorem Tallied.step {since : List (Firewall × FirewallEvent)} (h : f.Tallied chain since) (he : e.restarts = false) :
    (f.step e).Tallied chain (since ++ [(f, e)]) := by
  obtain ⟨hchain, hbounded, hexact⟩ := f.hits_step chain he
  refine ⟨?_, ?_, fun hkept => ?_⟩
  · rw [hchain, h.decided, List.countP_append, List.countP_singleton]
  · rw [hchain]
    exact hbounded.trans (Nat.add_le_add_right h.bounded _)
  · obtain ⟨hbefore, hlast⟩ := List.forall_mem_append.1 hkept
    rw [hchain, hexact (hlast (f, e) (List.mem_singleton_self _)), h.exact_of_kept hbefore]

theorem tallied_run (events : List FirewallEvent) (chain : Chain) :
    (run events).Tallied chain (sinceRestart events) := by
  induction events using List.reverseRecOn with
  | nil => exact tallied_of_zero ⟨PerChain.get_const 0 chain, rfl⟩
  | append_singleton events e ih =>
    have hrun : run (events ++ [e]) = (run events).step e := by
      rw [run, List.foldl_append]
      rfl
    rw [hrun, sinceRestart_append_singleton]
    cases he : e.restarts with
    | false => exact ih.step he
    | true => exact tallied_of_zero (hits_restart _ chain he)

/-- A chain that is not listed has no hits. -/
theorem get?_hits (f : Firewall) (chain : Chain) : (Assoc.get? f.hits chain).getD 0 = f.chainHits.get chain := by
  have hdistinct : Assoc.Distinct (Chain.all.map fun c => (c, f.chainHits.get c)) := by
    rw [Assoc.Distinct, List.map_map]
    exact show Chain.all.Nodup by decide
  have hall : Assoc.get? (Chain.all.map fun c => (c, f.chainHits.get c)) chain = some (f.chainHits.get chain) := by
    cases chain <;> rfl
  rw [hits, Assoc.get?_filter_value hdistinct (0 < ·), hall, Option.filter_some]
  split
  · rfl
  · rename_i hzero
    have hnone : f.chainHits.get chain = 0 := by simpa using hzero
    exact hnone.symm

/-- After every history the hits of the rules on a chain add up to no more than the hits of the chain, and to as many
if since the last restart no rule was removed or replaced. The chain has as many hits as there were packets since then
on it that some rule decided. -/
theorem hits_run (events : List FirewallEvent) (chain : Chain) :
    let f := run events
    let hits := (Assoc.get? f.hits chain).getD 0
    f.hitsOn chain ≤ hits ∧
      ((∀ m ∈ sinceRestart events, m.1.retires m.2 = false) → f.hitsOn chain = hits) ∧
      hits = (sinceRestart events).countP fun m => m.1.decides chain m.2 := by
  intro f hits
  have htallied := tallied_run events chain
  have hhits : hits = f.chainHits.get chain := f.get?_hits chain
  rw [hhits]
  exact ⟨htallied.bounded, htallied.exact_of_kept, htallied.decided⟩

/-- All counters are set back, and two packets are judged, of which the second is on a chain without rules. -/
def recounted : List FirewallEvent :=
  reworked ++ [.resetHits, .evaluate .forward shellPacket, .evaluate .input shellPacket]

/-- The rule that left its chain took its hit along, and the chain kept it. After the restart the rules on a chain have
all its hits. -/
theorem hits_recounted :
    (run reworked).hitsOn .input = 0 ∧ (Assoc.get? (run reworked).hits .input).getD 0 = 1 ∧
      (∀ m ∈ sinceRestart recounted, m.1.retires m.2 = false) ∧
      (run recounted).hitsOn .forward = 1 ∧ (run recounted).hitsOn .input = 0 := by
  obtain ⟨-, hforward, hdecided⟩ := hits_run recounted .forward
  obtain ⟨-, hinput, hundecided⟩ := hits_run recounted .input
  have hkept : ∀ m ∈ sinceRestart recounted, m.1.retires m.2 = false := by decide
  refine ⟨by decide, by decide, hkept, ?_, ?_⟩
  · rw [hforward hkept, hdecided]
    decide
  · rw [hinput hkept, hundecided]
    decide

end Firewall

end Router
