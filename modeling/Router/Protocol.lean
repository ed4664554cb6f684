import Router.Text.Keyword

/-!
# Transport protocols

The protocols that the engines tell apart, by protocol number and by name.
-/

namespace Router

/-- A transport protocol as the engines see it. -/
inductive Protocol
  | tcp
  | udp
  | icmp
  | icmpv6
  /-- Any other protocol number. -/
  | other
  deriving DecidableEq, Repr

namespace Protocol

/-- The protocol with a given number. -/
def ofNumber (number : Nat) : Protocol :=
  if number = 1 then .icmp
  else if number = 6 then .tcp
  else if number = 17 then .udp
  else if number = 58 then .icmpv6
  else .other

/-- Whether the first four octets after the IP header are a pair of ports. -/
def hasPorts : Protocol → Bool
  | .tcp | .udp => true
  | _ => false

/-- The name of a protocol in rules and documents. -/
def name : Protocol → String
  | .tcp => "TCP"
  | .udp => "UDP"
  | .icmp => "ICMP"
  | .icmpv6 => "ICMPv6"
  | .other => "OTHER"

instance : Text.Keyword Protocol where
  noun := "protocol"
  spelling := name
  all := [.tcp, .udp, .icmp, .icmpv6, .other]

instance : Text.Keyword.Sound Protocol where
  mem_all a := by cases a <;> decide
  ne_empty a := by cases a <;> decide
  foldCase_inj {a b} h := by cases a <;> cases b <;> first | rfl | (exact absurd h (by decide))

end Protocol

end Router
