import Mathlib.Data.List.Induction
import Router.Proofs.Firewall

/-!
# The history of a filter

A filter is told to judge packets and to change its rules and defaults, in any order (`Firewall.run`). Its rules are
what the changes make of a plain list (`rules_run`), and its default for a chain is the one that was set last
(`defaults_run`); to judge a packet leaves no trace in either. Main statement: after every history the verdict on a
packet is that of the first rule on the chain whose every predicate holds, else the default that was set last, else to
drop, and nothing but the rules on the chain and its default has a say in it (`verdict_run`).
-/

namespace Router

/-! ## Lists of rules -/

namespace RuleList

variable {ρ : Type}

theorem rules_cons (entry : Counted ρ) (rest : RuleList ρ) : rules (entry :: rest) = entry.rule :: rules rest := rfl

variable [DecidableEq ρ]

theorem rules_erase? (list : RuleList ρ) (target : ρ) :
    ((list.erase? target).getD list).rules = list.rules.erase target := by
  induction list with
  | nil => rfl
  | cons entry rest ih =>
    rw [rules_cons, List.erase_cons, erase?]
    by_cases h : entry.rule = target
    · simp [h]
    · rw [if_neg h, if_neg (by simpa using h), ← ih]
      cases erase? rest target <;> rfl

theorem rules_replace? (list : RuleList ρ) (target rule : ρ) :
    ((list.replace? target rule).getD list).rules = list.rules.replace target rule := by
  induction list with
  | nil => rfl
  | cons entry rest ih =>
    rw [rules_cons, replace?]
    by_cases h : entry.rule = target
    · simp [h, rules_cons]
    · rw [if_neg h, List.replace_cons, beq_eq_false_iff_ne.2 (Ne.symm h), ← ih]
      cases replace? rest target rule <;> rfl

end RuleList

/-! ## Verdicts -/

theorem PortRange.admits_eq_true_iff {range : Option PortRange} {port : UInt16} :
    admits range port = true ↔ ∀ r ∈ range, r.first ≤ port ∧ port ≤ r.last := by
  cases range <;> simp [admits, contains]

theorem Network.admits_eq_true_iff {network : Option Network} {a : Option Address} :
    admits network a = true ↔ ∀ n ∈ network, ∃ x ∈ a, n.contains x = true := by
  cases network <;> cases a <;> simp [admits]

namespace FilterRule

/-- Every predicate that the rule has holds of the packet. A predicate on an address does not hold of a packet without
that address. -/
structure Holds (rule : FilterRule) (p : Packet) : Prop where
  protocol : ∀ protocol ∈ rule.protocol, p.metadata.protocol = protocol
  source : ∀ network ∈ rule.source, ∃ a ∈ p.metadata.source, network.contains a = true
  destination : ∀ network ∈ rule.destination, ∃ a ∈ p.metadata.destination, network.contains a = true
  sourcePort : ∀ range ∈ rule.sourcePort, range.first ≤ p.metadata.sourcePort ∧ p.metadata.sourcePort ≤ range.last
  destinationPort : ∀ range ∈ rule.destinationPort,
    range.first ≤ p.metadata.destinationPort ∧ p.metadata.destinationPort ≤ range.last
  inInterface : ∀ name ∈ rule.inInterface, p.ingress = name
  outInterface : ∀ name ∈ rule.outInterface, p.egress = name

theorem isMatch_eq_true_iff {rule : FilterRule} {chain : Chain} {p : Packet} :
    rule.isMatch chain p = true ↔ rule.chain = chain ∧ rule.Holds p := by
  have hsame {α : Type} [DecidableEq α] (want : Option α) (x : α) :
      want.all (· = x) = true ↔ ∀ y ∈ want, x = y := by
    cases want <;> simp [eq_comm]
  simp only [isMatch, Bool.and_eq_true, decide_eq_true_eq, hsame, Network.admits_eq_true_iff,
    PortRange.admits_eq_true_iff]
  constructor
  · rintro ⟨⟨⟨⟨⟨⟨⟨hchain, hprotocol⟩, hsource⟩, hdestination⟩, hsourcePort⟩, hdestinationPort⟩, hin⟩, hout⟩
    exact ⟨hchain, hprotocol, hsource, hdestination, hsourcePort, hdestinationPort, hin, hout⟩
  · rintro ⟨hchain, hprotocol, hsource, hdestination, hsourcePort, hdestinationPort, hin, hout⟩
    exact ⟨⟨⟨⟨⟨⟨⟨hchain, hprotocol⟩, hsource⟩, hdestination⟩, hsourcePort⟩, hdestinationPort⟩, hin⟩, hout⟩

/-- What rules in order say of a packet on a chain: the first rule on the chain whose predicates hold decides, and
where there is none the fallback does. -/
inductive Judges (rules : List FilterRule) (fallback : Verdict) (chain : Chain) (p : Packet) : Verdict → Prop
  | first {front : List FilterRule} {rule : FilterRule} {back : List FilterRule}
      (split : rules = front ++ rule :: back) (chain_eq : rule.chain = chain) (holds : rule.Holds p)
      (earlier : ∀ r ∈ front, r.chain = chain → ¬ r.Holds p) : Judges rules fallback chain p rule.verdict
  | fallback (none_holds : ∀ r ∈ rules, r.chain = chain → ¬ r.Holds p) : Judges rules fallback chain p fallback

theorem not_isMatch_iff {rule : FilterRule} {chain : Chain} {p : Packet} :
    ¬ rule.isMatch chain p = true ↔ (rule.chain = chain → ¬ rule.Holds p) := by
  rw [isMatch_eq_true_iff, not_and]

/-- The first match decides as the rules say, and nothing else does. -/
theorem judges_iff {rules : List FilterRule} {fallback : Verdict} {chain : Chain} {p : Packet} {verdict : Verdict} :
    Judges rules fallback chain p verdict ↔
      ((rules.find? fun rule => rule.isMatch chain p).map FilterRule.verdict).getD fallback = verdict := by
  constructor
  · intro h
    cases h with
    | @first front rule back hsplit hchain hholds hearlier =>
      have hfind : rules.find? (fun rule => rule.isMatch chain p) = some rule := by
        refine List.find?_eq_some_iff_append.2 ⟨isMatch_eq_true_iff.2 ⟨hchain, hholds⟩, front, back, hsplit, ?_⟩
        intro r hr
        simpa using not_isMatch_iff.2 (hearlier r hr)
      rw [hfind]
      rfl
    | fallback hnone =>
      rw [List.find?_eq_none.2 fun r hr => not_isMatch_iff.2 (hnone r hr)]
      rfl
  · rintro rfl
    cases hfind : rules.find? fun rule => rule.isMatch chain p with
    | none => exact .fallback fun r hr => not_isMatch_iff.1 (List.find?_eq_none.1 hfind r hr)
    | some rule =>
      obtain ⟨hmatch, front, back, hsplit, hfront⟩ := List.find?_eq_some_iff_append.1 hfind
      obtain ⟨hchain, hholds⟩ := isMatch_eq_true_iff.1 hmatch
      refine .first hsplit hchain hholds fun r hr => not_isMatch_iff.1 ?_
      simpa using hfront r hr

/-- Rules on other chains never match. -/
theorem find?_isMatch (rules : List FilterRule) (chain : Chain) (p : Packet) :
    rules.find? (fun rule => rule.isMatch chain p) =
      (rules.filter fun rule => rule.chain = chain).find? fun rule => rule.isMatch chain p := by
  rw [List.find?_filter]
  congr 1
  funext rule
  rw [Bool.eq_iff_iff, decide_eq_true_eq, decide_eq_true_eq]
  exact ⟨fun h => ⟨(isMatch_eq_true_iff.1 h).1, h⟩, And.right⟩

end FilterRule

/-! ## Histories -/

namespace FirewallEvent

/-- Whether an event is more than a packet to judge. -/
def isChange : FirewallEvent → Bool
  | .evaluate _ _ => false
  | _ => true

/-- A list of rules after an event: a rule comes last, the first that is equal to one goes or is replaced where it
stands, or others take the place of all. -/
def edit (rules : List FilterRule) : FirewallEvent → List FilterRule
  | .add rule => rules ++ [rule]
  | .remove rule => rules.erase rule
  | .update target rule => rules.replace target rule
  | .replace rules _ => rules
  | .evaluate _ _ | .setDefault _ _ | .resetHits => rules

/-- The default that an event leaves a chain with, if it sets the defaults of the chain; it may set it to none. -/
def default? (chain : Chain) : FirewallEvent → Option (Option Verdict)
  | .setDefault c verdict => if c = chain then some (some verdict) else none
  | .replace _ defaults => some (defaults.get chain)
  | .evaluate _ _ | .add _ | .remove _ | .update _ _ | .resetHits => none

/-- The default of a chain as events set it last. -/
def lastDefault (chain : Chain) (events : List FirewallEvent) : Option Verdict :=
  (events.filterMap (default? chain)).getLast?.join

end FirewallEvent

namespace Firewall

open FirewallEvent

/-- The filter after events, from one without rules and defaults. -/
def run (events : List FirewallEvent) : Firewall :=
  events.foldl step empty

variable {f g : Firewall} {chain : Chain}

theorem rules_step (f : Firewall) (e : FirewallEvent) : (f.step e).rules = edit f.rules e := by
  cases e with
  | evaluate chain p => exact f.rules_evaluate chain p
  | add rule => exact RuleList.rules_push f.list rule
  | remove rule =>
    refine .trans ?_ (RuleList.rules_erase? f.list rule)
    rw [step, remove?]
    cases f.list.erase? rule <;> rfl
  | update target rule =>
    refine .trans ?_ (RuleList.rules_replace? f.list target rule)
    rw [step, update?]
    cases f.list.replace? target rule <;> rfl
  | setDefault chain verdict => rfl
  | replace rules defaults => exact RuleList.rules_fresh rules
  | resetHits => exact RuleList.rules_resetHits f.list

theorem rules_run (events : List FirewallEvent) : (run events).rules = events.foldl edit [] := by
  induction events using List.reverseRecOn with
  | nil => rfl
  | append_singleton events e ih =>
    rw [run, List.foldl_append, List.foldl_append, ← run, ← ih]
    exact (run events).rules_step e

theorem defaults_step (f : Firewall) (chain : Chain) (e : FirewallEvent) :
    (f.step e).defaults.get chain = (e.default? chain).getD (f.defaults.get chain) := by
  cases e with
  | evaluate c p => exact congrArg (PerChain.get · chain) (f.defaults_evaluate c p)
  | setDefault c verdict =>
    rw [step, setDefault, default?]
    dsimp only
    rw [PerChain.get_set]
    by_cases h : c = chain
    · simp [h]
    · simp [h, Ne.symm h]
  | remove rule =>
    rw [step, remove?]
    cases f.list.erase? rule <;> rfl
  | update target rule =>
    rw [step, update?]
    cases f.list.replace? target rule <;> rfl
  | add rule | replace rules defaults | resetHits => rfl

theorem defaults_run (events : List FirewallEvent) (chain : Chain) :
    (run events).defaults.get chain = lastDefault chain events := by
  induction events using List.reverseRecOn with
  | nil => exact PerChain.get_const none chain
  | append_singleton events e ih =>
    rw [run, List.foldl_append, ← run, List.foldl_cons, List.foldl_nil, defaults_step, ih, lastDefault, lastDefault,
      List.filterMap_append]
    cases h : e.default? chain <;> simp [h]

/-- The verdict is what the rules say with the default in force as their fallback. -/
theorem evaluate_eq_iff (f : Firewall) (chain : Chain) (p : Packet) (verdict : Verdict) :
    (f.evaluate chain p).1 = verdict ↔ FilterRule.Judges f.rules (f.default chain) chain p verdict := by
  rw [evaluate_fst, FilterRule.judges_iff]

theorem evaluate_congr_chain
    (hrules : f.rules.filter (fun rule => rule.chain = chain) = g.rules.filter fun rule => rule.chain = chain)
    (hdefault : f.default chain = g.default chain) (p : Packet) :
    (f.evaluate chain p).1 = (g.evaluate chain p).1 := by
  rw [evaluate_fst, evaluate_fst, FilterRule.find?_isMatch, hrules, ← FilterRule.find?_isMatch, hdefault]

theorem edit_filter_isChange (rules : List FilterRule) (events : List FirewallEvent) :
    (events.filter isChange).foldl edit rules = events.foldl edit rules := by
  induction events generalizing rules with
  | nil => rfl
  | cons e rest ih =>
    cases e with
    | evaluate chain p => exact ih rules
    | _ => exact ih _

theorem lastDefault_filter_isChange (chain : Chain) (events : List FirewallEvent) :
    lastDefault chain (events.filter isChange) = lastDefault chain events := by
  rw [lastDefault, lastDefault, List.filterMap_filter]
  congr 3
  funext e
  cases e <;> rfl

/-- After every history the rules are what the changes made of them, and the verdict on a packet is that of the first
rule on the chain whose every predicate holds, else the default that was set last for the chain, else to drop. Histories
of the same changes lead to the same verdicts, whatever they judged in between, and so does any filter with the same
rules on the chain and the same default for it. -/
theorem verdict_run (events : List FirewallEvent) (chain : Chain) :
    (run events).rules = events.foldl edit [] ∧
      (∀ p verdict, ((run events).evaluate chain p).1 = verdict ↔
        FilterRule.Judges (run events).rules ((lastDefault chain events).getD .drop) chain p verdict) ∧
      (∀ others : List FirewallEvent, others.filter isChange = events.filter isChange → ∀ p,
        ((run others).evaluate chain p).1 = ((run events).evaluate chain p).1) ∧
      ∀ f : Firewall,
        (f.rules.filter fun rule => rule.chain = chain) = ((run events).rules.filter fun rule => rule.chain = chain) →
        f.default chain = (run events).default chain →
        ∀ p, (f.evaluate chain p).1 = ((run events).evaluate chain p).1 := by
  have hdefault : ∀ events, (run events).default chain = (lastDefault chain events).getD .drop := fun events => by
    rw [default, defaults_run]
  refine ⟨rules_run events, fun p verdict => ?_, fun others hsame p => ?_, fun f hrules hdef p => ?_⟩
  · rw [evaluate_eq_iff, hdefault]
  · have hrules : (run others).rules = (run events).rules := by
      rw [rules_run, rules_run, ← edit_filter_isChange [] others, hsame, edit_filter_isChange]
    have hlast : lastDefault chain others = lastDefault chain events := by
      rw [← lastDefault_filter_isChange, hsame, lastDefault_filter_isChange]
    rw [evaluate_fst, evaluate_fst, hrules, hdefault, hdefault, hlast]
  · exact evaluate_congr_chain hrules hdef p

/-! ## A rule that changes its chain -/

/-- The way in for a remote shell. -/
def remoteShell : FilterRule :=
  { FilterRule.forAll .input .accept with protocol := some .tcp, destinationPort := some (.single 22) }

/-- A connection to a remote shell. -/
def shellPacket : Packet :=
  .new [] "lan0" ⟨some (.v4 0x0A000001), some (.v4 0x0A0000FE), .tcp, 40000, 22, 0⟩

/-- The same on the way through, where it is refused. -/
def shellRefused : FilterRule :=
  { remoteShell with chain := .forward, verdict := .reject }

/-- The first rule decides on one chain, and then is replaced by one on another. -/
def reworked : List FirewallEvent :=
  [.setDefault .forward .accept, .add remoteShell, .add (.forAll .forward .drop), .evaluate .input shellPacket,
    .update remoteShell shellRefused, .evaluate .forward shellPacket]

/-- The new rule decides on its chain, where it stands before the one that was added later. It would do so as well if
no packet had been judged before, or if there were more rules on other chains. -/
theorem verdict_reworked :
    ((run reworked).evaluate .input shellPacket).1 = .drop ∧
      ((run reworked).evaluate .forward shellPacket).1 = .reject ∧
      ((run (reworked.filter isChange)).evaluate .forward shellPacket).1 = .reject ∧
      ((ofRules (remoteShell :: (run reworked).rules) ⟨none, some .drop, some .accept⟩).evaluate .forward
        shellPacket).1 = .reject := by
  obtain ⟨-, hverdict, hsame, hagree⟩ := verdict_run reworked .forward
  have hmatch : shellRefused.isMatch .forward shellPacket = true := by decide
  obtain ⟨hchain, hholds⟩ := FilterRule.isMatch_eq_true_iff.1 hmatch
  have hrules : (run reworked).rules = [] ++ shellRefused :: [.forAll .forward .drop] := by decide
  have hreject : ((run reworked).evaluate .forward shellPacket).1 = .reject :=
    (hverdict shellPacket .reject).2 (.first hrules hchain hholds (List.forall_mem_nil _))
  refine ⟨by decide, hreject, ?_, ?_⟩
  · rw [hsame (reworked.filter isChange) rfl]
    exact hreject
  · rw [hagree (ofRules (remoteShell :: (run reworked).rules) ⟨none, some .drop, some .accept⟩) (by decide) (by decide)]
    exact hreject

end Firewall

end Router
