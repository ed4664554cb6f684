import Router.Proofs.Header.Restoring
import Router.Proofs.Nat.Expiry
import Router.Proofs.Nat.Reply

/-!
# One end at a time

A rule replaces one end of a flow, or leaves the flow as it is. What is tracked for the replies swaps the ends, of the
flow and of what it becomes, so it has one end in common with its key as well: the other one. Each tracked direction
keeps its protocol and one end, and its peer is the way back of what it becomes (`OneSided`); one event keeps this
(`oneSided_step`), whatever flows it opens over others or makes forgotten, and so does every history.

Main statement: of no packet both ends are replaced, neither in its metadata nor in its datagram, its protocol stays,
and a packet that is neither tracked nor matched leaves as it came and without a trace (`one_end_translated`).
-/

namespace Router

/-! ## Endpoints with one end in common -/

namespace Endpoints

variable {e f : Endpoints}

/-- That two pairs of endpoints have the source in common, or the destination. -/
def ShareEnd (e f : Endpoints) : Prop :=
  (e.source = f.source ∧ e.sourcePort = f.sourcePort) ∨
    (e.destination = f.destination ∧ e.destinationPort = f.destinationPort)

theorem ShareEnd.refl (e : Endpoints) : e.ShareEnd e :=
  .inl ⟨rfl, rfl⟩

theorem ShareEnd.symm (h : e.ShareEnd f) : f.ShareEnd e :=
  h.imp (fun h => ⟨h.1.symm, h.2.symm⟩) fun h => ⟨h.1.symm, h.2.symm⟩

/-- On the way back the ends are swapped. -/
theorem ShareEnd.reverse (h : e.ShareEnd f) : e.reverse.ShareEnd f.reverse :=
  Or.symm h

end Endpoints

theorem NatRule.shareEnd_translate (rule : NatRule) (k : FlowKey) : (rule.translate k).ends.ShareEnd k.ends := by
  cases hk : rule.kind with
  | source => exact .inr (by simp [translate, hk])
  | destination => exact .inl (by simp [translate, hk])

/-! ## What is tracked -/

/-- That an entry replaces at most one end of its direction, keeps the protocol, and names as its peer the way back of
what the direction becomes. -/
structure Tracked.OneSided (key : FlowKey) (entry : Tracked) : Prop where
  protocol : entry.translated.protocol = key.protocol
  ends : entry.translated.ends.ShareEnd key.ends
  peer : entry.peer = entry.translated.reverse

namespace NatTable

variable {t : NatTable} {k u x : FlowKey}

/-- That all tracked directions are one-sided. -/
def OneSided (tracked : Assoc FlowKey Tracked) : Prop :=
  ∀ x entry, tracked.get? x = some entry → entry.OneSided x

theorem OneSided.touch {tracked : Assoc FlowKey Tracked} (h : OneSided tracked) (k peer : FlowKey) (now : Nat) :
    OneSided (NatTable.touch tracked k peer now) := by
  intro x entry hx
  rw [get?_touch] at hx
  split at hx
  · obtain ⟨was, hwas, rfl⟩ := Option.map_eq_some_iff.1 hx
    obtain ⟨hprotocol, hends, hpeer⟩ := h x was hwas
    exact ⟨hprotocol, hends, hpeer⟩
  · exact h x entry hx

/-- Both directions of a flow that is opened are one-sided, whatever stood there before. -/
theorem OneSided.track {tracked : Assoc FlowKey Tracked} (h : OneSided tracked) (hprotocol : u.protocol = k.protocol)
    (hends : u.ends.ShareEnd k.ends) (now : Nat) : OneSided (NatTable.track tracked k u now) := by
  intro x entry hx
  rw [get?_track] at hx
  split at hx
  · rename_i hxu
    subst hxu
    cases hx
    exact ⟨hprotocol.symm, hends.symm.reverse, rfl⟩
  · split at hx
    · rename_i hxk
      subst hxk
      cases hx
      exact ⟨hprotocol, hends, rfl⟩
    · exact h x entry hx

theorem OneSided.expire (h : OneSided t.tracked) (now idle : Nat) : OneSided (t.expire now idle).tracked := by
  intro x entry hx
  rw [get?_expire] at hx
  split at hx
  · cases hx
  · exact h x entry hx

theorem shareEnd_of_ruled? (h : t.ruled? k = some u) : u.ends.ShareEnd k.ends := by
  obtain ⟨rule, -, rfl⟩ := Option.map_eq_some_iff.1 h
  exact rule.shareEnd_translate k

/-- What becomes of a direction keeps one end, tracked or not. -/
theorem OneSided.shareEnd_fate (h : OneSided t.tracked) (k : FlowKey) : (t.fate k).ends.ShareEnd k.ends := by
  cases hk : t.tracked.get? k with
  | some entry =>
    rw [fate_of_target? (u := entry.translated) (by simp [target?, hk])]
    exact (h k entry hk).ends
  | none =>
    rw [fate_of_untracked hk]
    cases hr : t.ruled? k with
    | none => exact .refl _
    | some u => exact shareEnd_of_ruled? hr

end NatTable

/-! ## Datagrams -/

/-- What a datagram shows of endpoints that share an end with its own shares this end too. -/
theorem Datagram.shareEnd_shown {m : Metadata} {e k : Endpoints} (d : Datagram) (hk : m.endpoints? = some k)
    (h : e.ShareEnd k) : (d.shown m e).ShareEnd k := by
  obtain ⟨-, -, hs, hd⟩ := Metadata.endpoints?_eq_some.1 hk
  unfold shown
  split
  · exact h
  · exact h.imp (fun h => ⟨h.1, hs⟩) fun h => ⟨h.1, hd⟩

/-- Of endpoints that share an end with its own a datagram shows that end, also where it does not fit them. -/
theorem Packet.wire?_withEndpoints {p : Packet} {e k : Endpoints} (hread : Metadata.read p.data = .ok p.metadata)
    (hk : p.metadata.endpoints? = some k) (h : e.ShareEnd k) :
    ∃ ends, (p.withEndpoints e).wire? = some ⟨p.metadata.protocol, ends⟩ ∧ ends.ShareEnd k := by
  by_cases hfits : p.data.Fits p.metadata.protocol e
  · have hown := (Datagram.carries_of_read hread hk).sameFamily
    have hfamily : e.source.isV4 = k.source.isV4 ∧ e.destination.isV4 = k.source.isV4 := by
      obtain ⟨family, header, has⟩ | ⟨family, header, has⟩ := hfits
      · exact ⟨family.1.trans (hown.v4 header has.read).1.symm, family.2.trans (hown.v4 header has.read).1.symm⟩
      · exact ⟨family.1.trans (hown.v6 header has.read).1.symm, family.2.trans (hown.v6 header has.read).1.symm⟩
    have hwritten := Metadata.read_withEndpoints hread hk hfamily.1 hfamily.2
    have hwire := wire?_of_read (p := p.withEndpoints e) hwritten (Metadata.endpoints?_withEndpoints _ _)
    exact ⟨_, hwire, p.data.shareEnd_shown hk h⟩
  · have hdata : (p.withEndpoints e).data = p.data := Datagram.withEndpoints_of_not_fits hfits
    exact ⟨k, wire?_of_read (by rw [hdata]; exact hread) hk, .refl k⟩

/-! ## Every history -/

namespace NatState

variable {s : NatState} {p : Packet} {k : FlowKey}

/-- One event keeps what is tracked one-sided. -/
theorem oneSided_step (h : NatTable.OneSided s.table.tracked) (e : NatEvent) :
    NatTable.OneSided (s.step e).table.tracked := by
  cases s.change e with
  | touched k old hk tracked => rw [tracked]; exact h.touch k old.peer s.now
  | opened k u hk tracked =>
    have hruled := (NatTable.opens?_eq_some.1 hk).2
    rw [tracked]
    exact h.track (NatTable.protocol_of_ruled? hruled) (NatTable.shareEnd_of_ruled? hruled) s.now
  | kept tracked => rw [tracked]; exact h
  | expired idle he => subst he; exact h.expire s.now idle
  | flushed he =>
    subst he
    intro x entry hx
    cases hx

theorem oneSided_run (h : NatTable.OneSided s.table.tracked) (events : List NatEvent) :
    NatTable.OneSided (s.run events).table.tracked := by
  induction events generalizing s with
  | nil => exact h
  | cons e rest ih => exact ih (oneSided_step h e)

theorem oneSided_start (now : Nat) : NatTable.OneSided (start now).table.tracked := by
  intro x entry hx
  cases hx

/-- A packet leaves as what becomes of its direction. -/
theorem ofPacket?_send (hp : FlowKey.ofPacket? p = some k) :
    FlowKey.ofPacket? (s.send p) = some ⟨k.protocol, (s.table.fate k).ends⟩ := by
  have hprotocol : (s.send p).metadata.protocol = p.metadata.protocol := by
    rw [send, NatTable.fst_apply hp]
    split <;> rfl
  exact FlowKey.ofPacket?_eq_some.2
    ⟨hprotocol.trans (FlowKey.ofPacket?_eq_some.1 hp).1, NatTable.endpoints?_apply hp⟩

theorem wire?_send (h : NatTable.OneSided s.table.tracked) (hp : FlowKey.ofPacket? p = some k)
    (hread : Metadata.read p.data = .ok p.metadata) :
    ∃ w, (s.send p).wire? = some w ∧ w.protocol = k.protocol ∧ w.ends.ShareEnd k.ends := by
  obtain ⟨hprotocol, hends⟩ := FlowKey.ofPacket?_eq_some.1 hp
  rw [send, NatTable.fst_apply hp]
  split
  · exact ⟨_, Packet.wire?_of_read hread hends, hprotocol, .refl _⟩
  · obtain ⟨ends, hwire, hshare⟩ := Packet.wire?_withEndpoints hread hends (h.shareEnd_fate k)
    exact ⟨_, hwire, hprotocol, hshare⟩

/-- What becomes of a packet: it keeps its protocol and one end, in the metadata and in a datagram that shows these; and
if it has no direction, or one that is neither tracked nor matched, it leaves as it came and the table stays as it is. -/
structure TranslatesOneEnd (s : NatState) (p : Packet) : Prop where
  metadata : ∀ k, FlowKey.ofPacket? p = some k →
    ∃ u, FlowKey.ofPacket? (s.send p) = some u ∧ u.protocol = k.protocol ∧ u.ends.ShareEnd k.ends
  datagram : ∀ k, FlowKey.ofPacket? p = some k → Metadata.read p.data = .ok p.metadata →
    ∃ w, (s.send p).wire? = some w ∧ w.protocol = k.protocol ∧ w.ends.ShareEnd k.ends
  unmatched : ∀ k, FlowKey.ofPacket? p = some k → s.table.tracks k = false →
    (∀ rule ∈ s.table.rules, rule.isMatch k = false) → s.send p = p ∧ s.step (.packet p) = s
  directionless : FlowKey.ofPacket? p = none → s.send p = p ∧ s.step (.packet p) = s

theorem send_of_apply (h : s.table.apply s.now p = (p, s.table)) : s.send p = p ∧ s.step (.packet p) = s := by
  rw [send, step, h]
  exact ⟨rfl, rfl⟩

theorem translatesOneEnd (h : NatTable.OneSided s.table.tracked) (p : Packet) : s.TranslatesOneEnd p where
  metadata k hp := ⟨_, ofPacket?_send hp, rfl, h.shareEnd_fate k⟩
  datagram k hp hread := wire?_send h hp hread
  unmatched k hp hk hrules := by
    have hfind : (s.table.rules.find? fun rule => rule.isMatch k) = none :=
      List.find?_eq_none.2 fun rule hrule => by simp [hrules rule hrule]
    have hr : s.table.ruled? k = none := by rw [NatTable.ruled?, hfind, Option.map_none]
    exact send_of_apply (NatTable.apply_of_untracked hp (NatTable.tracks_eq_false.1 hk) hr)
  directionless hp := send_of_apply (by rw [NatTable.apply, hp])

/-- After every history from an empty table each tracked direction is one-sided, and so is what becomes of any packet. -/
theorem one_end_translated (now : Nat) (events : List NatEvent) :
    (∀ x entry, (x, entry) ∈ ((start now).run events).table.tracked → entry.OneSided x) ∧
    ∀ p, ((start now).run events).TranslatesOneEnd p := by
  have h := oneSided_run (oneSided_start now) events
  refine ⟨fun x entry hx => ?_, translatesOneEnd h⟩
  exact h x entry ((Assoc.mem_iff_get? (recorded_run now events).distinct).1 hx)

/-- The replies to two hosts behind one port go to the second one: their source is kept, as it was in the flow. A third
host comes when the rules are gone, and is left alone. -/
theorem shared_replies_one_sided :
    (sharedFlow.reverse, ⟨(hostFlow 4).reverse, hostFlow 4, 50⟩) ∈ ((start 0).run sharedHistory).table.tracked ∧
    Tracked.OneSided sharedFlow.reverse ⟨(hostFlow 4).reverse, hostFlow 4, 50⟩ ∧
    ((start 0).run (sharedHistory ++ [.replaceRules []])).send (hostFlow 5).packet = (hostFlow 5).packet := by
  have hmem : (sharedFlow.reverse, ⟨(hostFlow 4).reverse, hostFlow 4, 50⟩) ∈
      ((start 0).run sharedHistory).table.tracked := by decide
  have hleft := ((one_end_translated 0 (sharedHistory ++ [.replaceRules []])).2 (hostFlow 5).packet).unmatched
    (hostFlow 5) rfl (by decide) (by decide)
  exact ⟨hmem, (one_end_translated 0 sharedHistory).1 _ _ hmem, hleft.1⟩

end NatState

end Router
