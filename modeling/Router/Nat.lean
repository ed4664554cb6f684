import Router.Assoc
import Router.Network
import Router.Packet
import Router.PortRange
import Router.RuleList
import Router.Text.Notation

/-!
# NAT

A rule replaces the source or the destination of the flows it matches. The first packet of a flow is decided by the
first matching rule; from then on the flow is tracked in both directions, and neither direction asks the rules again.
Tracked directions outlive the rule that made them, and go when they were idle for too long.
-/

namespace Router

/-! ## Flows -/

/-- The way of a flow in one direction. -/
structure FlowKey where
  protocol : Protocol
  ends : Endpoints
  deriving DecidableEq, Repr

namespace FlowKey

/-- The direction of a packet as it stands; none without both addresses. -/
def ofPacket? (p : Packet) : Option FlowKey :=
  p.metadata.endpoints?.map fun ends => ⟨p.metadata.protocol, ends⟩

/-- The direction of the replies. -/
def reverse (k : FlowKey) : FlowKey :=
  ⟨k.protocol, k.ends.reverse⟩

@[simp] theorem reverse_reverse (k : FlowKey) : k.reverse.reverse = k := rfl

instance : ToString FlowKey where
  toString k :=
    let source := s!"{k.ends.source}:{k.ends.sourcePort.toNat}"
    let destination := s!"{k.ends.destination}:{k.ends.destinationPort.toNat}"
    s!"{k.protocol.name} {source} -> {destination}"

end FlowKey

/-! ## Rules -/

/-- Which end of a flow a rule replaces. -/
inductive NatKind
  | source
  | destination
  deriving DecidableEq, Repr

namespace NatKind

/-- The name of a kind of rule. -/
def name : NatKind → String
  | .source => "SNAT"
  | .destination => "DNAT"

instance : Text.Keyword NatKind where
  noun := "NAT type"
  spelling := name
  all := [.source, .destination]

instance : Text.Keyword.Sound NatKind where
  mem_all a := by cases a <;> decide
  ne_empty a := by cases a <;> decide
  foldCase_inj {a b} h := by cases a <;> cases b <;> first | rfl | (exact absurd h (by decide))

end NatKind

/-- A NAT rule; a predicate that is absent holds of every flow. -/
structure NatRule where
  kind : NatKind
  source : Option Network
  destination : Option Network
  sourcePort : Option PortRange
  destinationPort : Option PortRange
  toAddress : Address
  /-- Without one the port stays. -/
  toPort : Option UInt16
  deriving DecidableEq, Repr

namespace NatRule

/-- Whether all predicates of a rule hold of a flow. -/
def isMatch (rule : NatRule) (k : FlowKey) : Bool :=
  Network.admits rule.source (some k.ends.source)
    && Network.admits rule.destination (some k.ends.destination)
    && PortRange.admits rule.sourcePort k.ends.sourcePort
    && PortRange.admits rule.destinationPort k.ends.destinationPort

/-- What a rule makes of a flow. -/
def translate (rule : NatRule) (k : FlowKey) : FlowKey :=
  match rule.kind with
  | .source =>
    { k with ends := { k.ends with
      source := rule.toAddress
      sourcePort := rule.toPort.getD k.ends.sourcePort } }
  | .destination =>
    { k with ends := { k.ends with
      destination := rule.toAddress
      destinationPort := rule.toPort.getD k.ends.destinationPort } }

end NatRule

/-! ## The table -/

/-- What is known of a tracked direction. -/
structure Tracked where
  translated : FlowKey
  /-- The other direction of the flow, which ages together with this one. -/
  peer : FlowKey
  /-- When a packet last went either way, in nanoseconds. -/
  lastSeen : Nat
  deriving DecidableEq, Repr

/-- NAT rules and the flows they made. -/
structure NatTable where
  list : RuleList NatRule
  tracked : Assoc FlowKey Tracked
  deriving DecidableEq, Repr

namespace NatTable

/-- The table without rules and flows. -/
def empty : NatTable :=
  ⟨[], []⟩

/-- The rules in order. -/
def rules (t : NatTable) : List NatRule :=
  t.list.rules

/-- The tracked directions after a packet of a tracked one went by. -/
def touch (tracked : Assoc FlowKey Tracked) (key peer : FlowKey) (now : Nat) : Assoc FlowKey Tracked :=
  (tracked.adjust key fun e => { e with lastSeen := now }).adjust peer fun e => { e with lastSeen := now }

/-- The tracked directions with both of a new flow. The replies to what the flow becomes are sent to where the flow
came from. -/
def track (tracked : Assoc FlowKey Tracked) (key translated : FlowKey) (now : Nat) : Assoc FlowKey Tracked :=
  (tracked.insert key ⟨translated, translated.reverse, now⟩).insert translated.reverse ⟨key.reverse, key, now⟩

/-- What becomes of a flow at a time, if it is tracked or matched, and the table after it. -/
def translate? (t : NatTable) (now : Nat) (key : FlowKey) : Option (FlowKey × NatTable) :=
  match t.tracked.get? key with
  | some entry => some (entry.translated, { t with tracked := touch t.tracked key entry.peer now })
  | none =>
    (t.list.decide? fun rule => rule.isMatch key).map fun (rule, list) =>
      (rule.translate key, ⟨list, track t.tracked key (rule.translate key) now⟩)

/-- The packet after NAT, and the table after it. A packet without both addresses, or of a flow that is
neither tracked nor matched, stays as it is. -/
def apply (t : NatTable) (now : Nat) (p : Packet) : Packet × NatTable :=
  match FlowKey.ofPacket? p with
  | none => (p, t)
  | some key =>
    match t.translate? now key with
    | none => (p, t)
    | some (translated, t) => (if translated = key then p else p.withEndpoints translated.ends, t)

/-- The table with one more rule. -/
def add (t : NatTable) (rule : NatRule) : NatTable :=
  { t with list := t.list.push rule }

/-- The table without the first rule equal to `rule`, if there is one; its flows stay. -/
def remove? (t : NatTable) (rule : NatRule) : Option NatTable :=
  (t.list.erase? rule).map fun list => { t with list }

/-- The table with these rules and the same flows. -/
def replaceRules (t : NatTable) (rules : List NatRule) : NatTable :=
  { t with list := RuleList.fresh rules }

/-- The number of tracked directions, two for most flows. -/
def flowCount (t : NatTable) : Nat :=
  t.tracked.length

/-- Each tracked direction and what it becomes. -/
def flows (t : NatTable) : List (FlowKey × FlowKey) :=
  t.tracked.map fun e => (e.1, e.2.translated)

/-- The directions that were idle for longer than `idle`, with their peers. -/
def stale (t : NatTable) (now idle : Nat) : List FlowKey :=
  (t.tracked.filter fun e => idle < now - e.2.lastSeen).flatMap fun e => [e.1, e.2.peer]

/-- The table without the stale directions. -/
def expire (t : NatTable) (now idle : Nat) : NatTable :=
  let gone := t.stale now idle
  { t with tracked := t.tracked.filter fun e => e.1 ∉ gone }

/-- The table without flows. -/
def flush (t : NatTable) : NatTable :=
  { t with tracked := [] }

/-- The table in diagnostics. -/
def describe (t : NatTable) : String :=
  Text.describeRecord "NatTable" [("rules", toString t.rules.length), ("flows", toString t.flowCount)]

end NatTable

end Router
