import Mathlib.Data.List.Induction
import Router.Firewall

/-!
# The verdict of a filter

A filter is told to judge packets and to change its rules and defaults (`Firewall.step`). Its verdict is that of the
first rule in its list that is on the chain and matches, or else the default of the chain (`evaluate_fst`), so that
filters with the same rules and defaults judge alike, whatever they counted. Defaults are handed on as a list, and read
back from it (`PerChain.ofList_entries`); of several entries for one chain the last counts (`PerChain.get_ofList`).
-/

namespace Router

namespace PerChain

/-- The values of a chain are not lost in a list. -/
theorem ofList_entries {α : Type} (m : PerChain (Option α)) : ofList m.entries = m := by
  obtain ⟨input, output, forward⟩ := m
  cases input <;> cases output <;> cases forward <;> rfl

/-- The value of a chain is that of its last entry. -/
theorem get_ofList {α : Type} (entries : List (Chain × α)) (chain : Chain) :
    (ofList entries).get chain = ((entries.filter (·.1 = chain)).getLast?).map Prod.snd := by
  induction entries using List.reverseRecOn with
  | nil => exact get_const none chain
  | append_singleton entries e ih =>
    rw [ofList, List.foldl_append, List.foldl_cons, List.foldl_nil, ← ofList, get_set, ih, List.filter_append]
    by_cases h : e.1 = chain
    · simp [h]
    · simp [h, Ne.symm h]

end PerChain

/-- What a filter can be told. -/
inductive FirewallEvent
  | evaluate (chain : Chain) (p : Packet)
  | add (rule : FilterRule)
  | remove (rule : FilterRule)
  | update (target rule : FilterRule)
  | setDefault (chain : Chain) (verdict : Verdict)
  | replace (rules : List FilterRule) (defaults : PerChain (Option Verdict))
  | resetHits

namespace Firewall

variable {f g : Firewall}

/-- The filter after an event. -/
def step (f : Firewall) : FirewallEvent → Firewall
  | .evaluate chain p => (f.evaluate chain p).2
  | .add rule => f.add rule
  | .remove rule => (f.remove? rule).getD f
  | .update target rule => (f.update? target rule).getD f
  | .setDefault chain verdict => f.setDefault chain verdict
  | .replace rules defaults => ofRules rules defaults
  | .resetHits => f.resetHits

theorem rules_evaluate (f : Firewall) (chain : Chain) (p : Packet) : (f.evaluate chain p).2.rules = f.rules := by
  unfold evaluate
  split
  · rename_i hdecide
    exact RuleList.rules_of_decide? hdecide
  · rfl

theorem defaults_evaluate (f : Firewall) (chain : Chain) (p : Packet) :
    (f.evaluate chain p).2.defaults = f.defaults := by
  unfold evaluate
  split <;> rfl

/-- The first rule on the chain that matches decides, else the default of the chain. -/
theorem evaluate_fst (f : Firewall) (chain : Chain) (p : Packet) :
    (f.evaluate chain p).1 =
      ((f.rules.find? fun rule => rule.isMatch chain p).map FilterRule.verdict).getD (f.default chain) := by
  have hfirst := RuleList.map_fst_decide? f.list fun rule => rule.isMatch chain p
  rw [rules, ← hfirst]
  unfold evaluate
  cases f.list.decide? fun rule => rule.isMatch chain p <;> rfl

theorem evaluate_congr (hrules : f.rules = g.rules) (hdefaults : f.defaults = g.defaults) (chain : Chain) (p : Packet) :
    (f.evaluate chain p).1 = (g.evaluate chain p).1 := by
  rw [evaluate_fst, evaluate_fst, hrules, default, default, hdefaults]

end Firewall

end Router
