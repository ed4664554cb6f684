import Router.Proofs.Header.Rewriting
import Router.Proofs.Nat.History

/-!
# What comes back over the wire

The packet that opens a flow was read from a datagram, and so are the replies: they are between the endpoints that the
datagram shows after NAT. What the table waits for are replies to what the rule made of the flow. The two are the same
where the datagram carries ports or the rule keeps them; otherwise the reply is not that of a tracked flow, and only the
rules can send it back. Main statement: a reply goes back to where the flow came from exactly in one of these cases
(`reply_returns_iff`). An echo request behind a translated port gets no answer (`echo_unanswered`).
-/

namespace Router

/-- The direction of a packet as its datagram shows it; none if that cannot be read. -/
def Packet.wire? (p : Packet) : Option FlowKey :=
  match Metadata.read p.data with
  | .ok m => m.endpoints?.map fun ends => ⟨m.protocol, ends⟩
  | .error _ => none

/-- Whether one direction has the ports of the other. -/
def FlowKey.samePorts (k u : FlowKey) : Bool :=
  decide (u.ends.sourcePort = k.ends.sourcePort ∧ u.ends.destinationPort = k.ends.destinationPort)

theorem Packet.wire?_of_read {p : Packet} {m : Metadata} {ends : Endpoints} (h : Metadata.read p.data = .ok m)
    (hends : m.endpoints? = some ends) : p.wire? = some ⟨m.protocol, ends⟩ := by
  simp [wire?, h, hends]

/-- A datagram shows all of what it is sent between if it carries ports or none of them changed. -/
theorem Datagram.shown_eq_iff {d : Datagram} {m : Metadata} {k u : FlowKey} (hp : m.protocol = k.protocol)
    (hk : m.endpoints? = some k.ends) :
    d.shown m u.ends = u.ends ↔ d.carriesPorts k.protocol = true ∨ k.samePorts u = true := by
  obtain ⟨-, -, hsource, hdestination⟩ := Metadata.endpoints?_eq_some.1 hk
  unfold Datagram.shown FlowKey.samePorts
  rw [hp, hsource, hdestination, decide_eq_true_iff]
  by_cases hc : d.carriesPorts k.protocol = true
  · simp [hc]
  · rw [if_neg hc, or_iff_right hc]
    constructor
    · intro h
      exact ⟨(congrArg Endpoints.sourcePort h).symm, (congrArg Endpoints.destinationPort h).symm⟩
    · rintro ⟨hs, hd⟩
      rw [← hs, ← hd]

namespace NatRule

variable {rule : NatRule} {k : FlowKey}

/-- A rule of the family of a flow keeps both ends in that family. -/
theorem family_translate (hs : rule.toAddress.isV4 = k.ends.source.isV4)
    (hd : k.ends.destination.isV4 = k.ends.source.isV4) :
    (rule.translate k).ends.source.isV4 = k.ends.source.isV4 ∧
      (rule.translate k).ends.destination.isV4 = k.ends.source.isV4 := by
  cases hkind : rule.kind with
  | source => simp [translate, hkind, hs, hd]
  | destination => simp [translate, hkind, hs]

end NatRule

namespace NatTable

variable {t : NatTable} {now : Nat} {p : Packet} {k u : FlowKey}

/-- After the first packet through a table without flows, the replies to what it became go back, and every other
direction is left to the rules. The flow itself is as the rules say. -/
theorem fate_apply_first (hempty : t.tracked = []) (hp : FlowKey.ofPacket? p = some k) (hu : t.ruled? k = some u)
    (x : FlowKey) : (t.apply now p).2.fate x = if x = u.reverse then k.reverse else (t.ruled? x).getD x := by
  have hfree : t.tracked.get? k = none := by rw [hempty]; rfl
  obtain ⟨list, hl⟩ := translate?_of_opens now (opens?_eq_some.2 ⟨hfree, hu⟩)
  have htable : (t.apply now p).2 = ⟨list, track t.tracked k u now⟩ := by
    simp [apply, hp, hl]
  have hrules : (t.apply now p).2.ruled? x = t.ruled? x := by
    rw [ruled?, rules_apply, ruled?]
  have htracked : (t.apply now p).2.target? x =
      if x = u.reverse then some k.reverse else if x = k then some u else none := by
    rw [htable, target?, get?_track, hempty]
    split
    · rfl
    · split <;> rfl
  rw [fate, htracked, hrules]
  by_cases hxu : x = u.reverse
  · simp [hxu]
  · by_cases hxk : x = k
    · subst hxk
      simp [hxu, hu]
    · simp [hxu, hxk]

theorem protocol_getD_ruled? (t : NatTable) (x : FlowKey) : ((t.ruled? x).getD x).protocol = x.protocol := by
  cases hx : t.ruled? x with
  | none => rfl
  | some u => exact protocol_of_ruled? hx

/-- The datagram of a packet that opened a flow shows what the flow became, as far as it can. -/
theorem wire?_apply_of_opens (hp : Metadata.read p.data = .ok p.metadata) (hk : FlowKey.ofPacket? p = some k)
    (ho : t.opens? k = some u) (hs : u.ends.source.isV4 = k.ends.source.isV4)
    (hd : u.ends.destination.isV4 = k.ends.source.isV4) :
    (t.apply now p).1.wire? = some ⟨k.protocol, p.data.shown p.metadata u.ends⟩ := by
  obtain ⟨hprotocol, hends⟩ := FlowKey.ofPacket?_eq_some.1 hk
  obtain ⟨list, hl⟩ := translate?_of_opens now ho
  by_cases hku : u = k
  · have hsame : (t.apply now p).1 = p := by simp [apply, hk, hl, hku]
    rw [hsame, Packet.wire?_of_read hp hends, hprotocol, hku, Metadata.shown_of_endpoints? hends]
  · have hdata : (t.apply now p).1 = p.withEndpoints u.ends := by simp [apply, hk, hl, hku]
    have hwritten := Metadata.read_withEndpoints hp hends hs hd
    rw [hdata, Packet.wire?_of_read hwritten (Metadata.endpoints?_withEndpoints _ _)]
    exact congrArg (fun protocol => some (FlowKey.mk protocol _)) hprotocol

variable {rule : NatRule}

/-- A datagram was translated by the first rule that matches it, one of its own family, in a table without flows. What
has the same protocol and comes from where the datagram is sent to goes back to where the datagram came from exactly if
the datagram carries ports, or the rule keeps them, or the rules send it there by themselves. -/
theorem reply_returns_iff {d : Datagram} {ingress : String} (now : Nat) (hempty : t.tracked = [])
    (hp : Packet.read d ingress = .ok p) (hk : FlowKey.ofPacket? p = some k)
    (hrule : (t.rules.find? fun rule => rule.isMatch k) = some rule)
    (hfamily : rule.toAddress.isV4 = k.ends.source.isV4) :
    ∃ w, (t.apply now p).1.wire? = some w ∧ w.protocol = k.protocol ∧
      w.ends = d.shown p.metadata (rule.translate k).ends ∧ ∀ q later, FlowKey.ofPacket? q = some w.reverse →
        (((t.apply now p).2.apply later q).1.metadata.endpoints? = some k.reverse.ends ↔
          d.carriesPorts k.protocol = true ∨ k.samePorts (rule.translate k) = true ∨
            (t.ruled? w.reverse).getD w.reverse = k.reverse) := by
  obtain ⟨rfl, hread⟩ := Packet.metadata_of_read hp
  obtain ⟨hprotocol, hends⟩ := FlowKey.ofPacket?_eq_some.1 hk
  have hu : t.ruled? k = some (rule.translate k) := by rw [ruled?, hrule, Option.map_some]
  have ho : t.opens? k = some (rule.translate k) := opens?_eq_some.2 ⟨by rw [hempty]; rfl, hu⟩
  obtain ⟨hs, hd⟩ := NatRule.family_translate hfamily (Metadata.family_of_read hread hends)
  refine ⟨_, wire?_apply_of_opens hread hk ho hs hd, rfl, rfl, fun q later hq => ?_⟩
  have hshown := Datagram.shown_eq_iff (d := p.data) (u := rule.translate k) hprotocol hends
  rw [endpoints?_apply hq, fate_apply_first hempty hk hu, Option.some.injEq, ← or_assoc, ← hshown]
  by_cases hw : p.data.shown p.metadata (rule.translate k).ends = (rule.translate k).ends
  · have hsame : FlowKey.mk k.protocol (p.data.shown p.metadata (rule.translate k).ends) = rule.translate k := by
      rw [hw, ← rule.translate_protocol k]
    rw [if_pos (congrArg FlowKey.reverse hsame)]
    exact iff_of_true rfl (.inl hw)
  · rw [if_neg fun h => hw (congrArg FlowKey.ends (FlowKey.reverse_inj.1 h)), or_iff_right hw]
    exact FlowKey.ends_inj (protocol_getD_ruled? t _)

/-! ## A name server and a ping behind one port -/

/-- What a host sends to a name server. -/
def nameQuery : Datagram :=
  V4Header.build V4Header.defaultTtl Segment.udpNumber 0x0A010203 0x08080808 (Segment.udp 1234 53 [])

/-- An echo request or reply. -/
def echo (kind : UInt8) (source destination : V4Address) : Datagram :=
  V4Header.build V4Header.defaultTtl 1 source destination [kind, 0, 0, 0, 0x12, 0x34, 0, 1]

/-- A packet of a datagram without ports. -/
def echoPacket (kind : UInt8) (source destination : V4Address) : Packet :=
  .new (echo kind source destination) "eth0" ⟨some (.v4 source), some (.v4 destination), .icmp, 0, 0, 28⟩

/-- The name server's answer finds its way to the host. -/
theorem nameQuery_answered :
    ∃ p w, Packet.read nameQuery "eth0" = .ok p ∧ ((NatTable.empty.add NatState.oneSource).apply 0 p).1.wire? = some w ∧
      (((NatTable.empty.add NatState.oneSource).apply 0 p).2.apply 1 w.reverse.packet).1.metadata.endpoints? =
        some (NatState.hostFlow 3).reverse.ends := by
  have hp : Packet.read nameQuery "eth0" =
      .ok (.new nameQuery "eth0" { (NatState.hostFlow 3).packet.metadata with length := 28 }) := by rfl
  obtain ⟨w, hw, -, -, h⟩ := reply_returns_iff (t := NatTable.empty.add NatState.oneSource)
    (k := NatState.hostFlow 3) 0 rfl hp (by rfl) (by rfl) (by rfl)
  exact ⟨_, w, hp, hw, (h _ 1 rfl).2 (.inl (by decide))⟩

/-- The table waits for replies to a port that no echo has. -/
theorem echo_unanswered :
    ¬ ∀ (t : NatTable) (d r : Datagram) (ingress ingress' : String) (p q : Packet) (k w : FlowKey) (rule : NatRule)
      (now later : Nat), t.tracked = [] → Packet.read d ingress = .ok p → FlowKey.ofPacket? p = some k →
      (t.rules.find? fun rule => rule.isMatch k) = some rule → rule.toAddress.isV4 = k.ends.source.isV4 →
      (t.apply now p).1.wire? = some w → Packet.read r ingress' = .ok q → FlowKey.ofPacket? q = some w.reverse →
      ((t.apply now p).2.apply later q).1.metadata.endpoints? = some k.reverse.ends := by
  intro h
  have answered := h (NatTable.empty.add NatState.oneSource) (echo 8 0x0A010203 0x08080808)
    (echo 0 0x08080808 0xCB00710A) "eth0" "eth0" (echoPacket 8 0x0A010203 0x08080808)
    (echoPacket 0 0x08080808 0xCB00710A) ⟨.icmp, .v4 0x0A010203, 0, .v4 0x08080808, 0⟩
    ⟨.icmp, .v4 0xCB00710A, 0, .v4 0x08080808, 0⟩ NatState.oneSource 0 1 rfl (by rfl) (by rfl) (by rfl) (by rfl)
    (by decide) (by rfl) (by rfl)
  exact absurd answered (by decide)

end NatTable

end Router
