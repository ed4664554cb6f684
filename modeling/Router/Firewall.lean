import Router.Packet
import Router.Network
import Router.PortRange
import Router.RuleList

/-!
# Packet filter

Each packet is judged on one chain: the first rule on that chain whose every predicate holds decides, otherwise the
default of the chain, and a chain without one drops.
-/

namespace Router

/-! ## Vocabulary -/

/-- Where a packet is judged. -/
inductive Chain
  /-- On its way to the router itself. -/
  | input
  /-- On its way out of the router. -/
  | output
  /-- On its way through the router. -/
  | forward
  deriving DecidableEq, Repr

namespace Chain

/-- The chains in their order. -/
def all : List Chain := [.input, .output, .forward]

/-- The name of a chain. -/
def name : Chain → String
  | .input => "INPUT"
  | .output => "OUTPUT"
  | .forward => "FORWARD"

instance : Text.Keyword Chain where
  noun := "chain"
  spelling := name
  all := all

instance : Text.Keyword.Sound Chain where
  mem_all a := by cases a <;> decide
  ne_empty a := by cases a <;> decide
  foldCase_inj {a b} h := by cases a <;> cases b <;> first | rfl | (exact absurd h (by decide))

end Chain

/-- What becomes of a packet. -/
inductive Verdict
  | accept
  /-- Discarded without a word. -/
  | drop
  /-- Discarded; the sender may be told. -/
  | reject
  deriving DecidableEq, Repr

namespace Verdict

/-- The name of a verdict. -/
def name : Verdict → String
  | .accept => "ACCEPT"
  | .drop => "DROP"
  | .reject => "REJECT"

instance : Text.Keyword Verdict where
  noun := "action"
  spelling := name
  all := [.accept, .drop, .reject]

instance : Text.Keyword.Sound Verdict where
  mem_all a := by cases a <;> decide
  ne_empty a := by cases a <;> decide
  foldCase_inj {a b} h := by cases a <;> cases b <;> first | rfl | (exact absurd h (by decide))

end Verdict

/-- One value for each chain. -/
structure PerChain (α : Type) where
  input : α
  output : α
  forward : α
  deriving DecidableEq, Repr

namespace PerChain

variable {α : Type}

/-- The same value for every chain. -/
def const (a : α) : PerChain α :=
  ⟨a, a, a⟩

/-- The value for a chain. -/
def get (m : PerChain α) : Chain → α
  | .input => m.input
  | .output => m.output
  | .forward => m.forward

/-- Another value for one chain. -/
def set (m : PerChain α) (c : Chain) (a : α) : PerChain α :=
  match c with
  | .input => { m with input := a }
  | .output => { m with output := a }
  | .forward => { m with forward := a }

@[simp] theorem get_const (a : α) (c : Chain) : (const a).get c = a := by
  cases c <;> rfl

theorem get_set (m : PerChain α) (c d : Chain) (a : α) : (m.set c a).get d = if d = c then a else m.get d := by
  cases c <;> cases d <;> rfl

/-- The chains that have a value, in order. -/
def entries (m : PerChain (Option α)) : List (Chain × α) :=
  Chain.all.filterMap fun c => (m.get c).map (c, ·)

/-- The values of a list; of several for one chain the last counts. -/
def ofList (entries : List (Chain × α)) : PerChain (Option α) :=
  entries.foldl (fun m e => m.set e.1 (some e.2)) (const none)

end PerChain

/-! ## Rules -/

/-- A filter rule; a predicate that is absent holds of every packet. -/
structure FilterRule where
  chain : Chain
  verdict : Verdict
  protocol : Option Protocol
  source : Option Network
  destination : Option Network
  sourcePort : Option PortRange
  destinationPort : Option PortRange
  inInterface : Option String
  outInterface : Option String
  deriving DecidableEq, Repr

namespace FilterRule

/-- The rule that decides every packet on a chain. -/
def forAll (chain : Chain) (verdict : Verdict) : FilterRule :=
  ⟨chain, verdict, none, none, none, none, none, none, none⟩

/-- Whether a rule is on the chain and all its predicates hold of the packet. -/
def isMatch (rule : FilterRule) (chain : Chain) (p : Packet) : Bool :=
  rule.chain = chain
    && rule.protocol.all (· = p.metadata.protocol)
    && Network.admits rule.source p.metadata.source
    && Network.admits rule.destination p.metadata.destination
    && PortRange.admits rule.sourcePort p.metadata.sourcePort
    && PortRange.admits rule.destinationPort p.metadata.destinationPort
    && rule.inInterface.all (· = p.ingress)
    && rule.outInterface.all (· = p.egress)

end FilterRule

/-! ## The filter -/

/-- The rules and defaults of a packet filter, with what they decided. -/
structure Firewall where
  list : RuleList FilterRule
  /-- The default of each chain, where one was set. -/
  defaults : PerChain (Option Verdict)
  /-- How many packets the rules on each chain decided. -/
  chainHits : PerChain Nat
  deriving DecidableEq, Repr

namespace Firewall

/-- The filter without rules and defaults. -/
def empty : Firewall :=
  ⟨[], .const none, .const 0⟩

/-- The rules in order. -/
def rules (f : Firewall) : List FilterRule :=
  f.list.rules

/-- The default that is in force on a chain. -/
def default (f : Firewall) (chain : Chain) : Verdict :=
  (f.defaults.get chain).getD .drop

/-- The verdict on a packet, and the filter after it. -/
def evaluate (f : Firewall) (chain : Chain) (p : Packet) : Verdict × Firewall :=
  match f.list.decide? fun rule => rule.isMatch chain p with
  | some (rule, list) =>
    (rule.verdict, { f with list, chainHits := f.chainHits.set chain (f.chainHits.get chain + 1) })
  | none => (f.default chain, f)

/-- The filter with one more rule. -/
def add (f : Firewall) (rule : FilterRule) : Firewall :=
  { f with list := f.list.push rule }

/-- The filter without the first rule equal to `rule`, if there is one. -/
def remove? (f : Firewall) (rule : FilterRule) : Option Firewall :=
  (f.list.erase? rule).map fun list => { f with list }

/-- The filter with `rule` in place of the first rule equal to `target`, if there is one. -/
def update? (f : Firewall) (target rule : FilterRule) : Option Firewall :=
  (f.list.replace? target rule).map fun list => { f with list }

/-- The filter with a default for a chain. -/
def setDefault (f : Firewall) (chain : Chain) (verdict : Verdict) : Firewall :=
  { f with defaults := f.defaults.set chain (some verdict) }

/-- The filter with these rules and defaults, nothing decided yet. -/
def ofRules (rules : List FilterRule) (defaults : PerChain (Option Verdict)) : Firewall :=
  ⟨RuleList.fresh rules, defaults, .const 0⟩

/-- The filter with all counters at zero. -/
def resetHits (f : Firewall) : Firewall :=
  { f with list := f.list.resetHits, chainHits := .const 0 }

/-- How many packets the rules decided, for the chains where they decided any. -/
def hits (f : Firewall) : List (Chain × Nat) :=
  (Chain.all.map fun c => (c, f.chainHits.get c)).filter (0 < ·.2)

end Firewall

end Router
