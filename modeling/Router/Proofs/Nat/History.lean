import Router.Proofs.Assoc
import Router.Nat

/-!
# Histories of a NAT table

A table is told events one after another, the passing of time among them (`NatState.run`). What one event can do is
said once, by `NatState.change`: it goes by a tracked direction, opens a flow, changes no tracking, or forgets some of
it. `opened?` and `passage?` name what a history has to remember of an event: the flow that a rule opened, and the
direction a packet went with its peer. Main statements: what is tracked after a packet (`get?_touch`, `get?_track`),
what leaves the table (`fst_apply`), and what is tracked after the idle ones went (`get?_expire`,
`mem_stale`).
-/

namespace Router

/-! ## Flows and packets -/

namespace FlowKey

theorem reverse_inj {k l : FlowKey} : k.reverse = l.reverse ↔ k = l :=
  ⟨fun h => by rw [← reverse_reverse k, h, reverse_reverse], congrArg reverse⟩

/-- Directions of one protocol are told apart by their ends. -/
theorem ends_inj {k l : FlowKey} (hp : k.protocol = l.protocol) : k.ends = l.ends ↔ k = l := by
  cases k
  cases l
  cases hp
  simp

theorem eq_of_reverse_ends {k l : FlowKey} (hp : k.protocol = l.protocol) (he : k.reverse.ends = l.reverse.ends) :
    k = l := by
  have hp' : k.reverse.protocol = l.reverse.protocol := hp
  exact reverse_inj.1 ((ends_inj hp').1 he)

theorem ofPacket?_eq_some {p : Packet} {k : FlowKey} :
    ofPacket? p = some k ↔ p.metadata.protocol = k.protocol ∧ p.metadata.endpoints? = some k.ends := by
  cases k with
  | mk protocol ends =>
    cases h : p.metadata.endpoints? <;> simp [ofPacket?, h]

end FlowKey

/-- A packet of a direction, with nothing but its metadata. -/
def FlowKey.packet (k : FlowKey) : Packet :=
  .new [] "" ⟨some k.ends.source, some k.ends.destination, k.protocol, k.ends.sourcePort, k.ends.destinationPort, 0⟩

theorem Metadata.endpoints?_withEndpoints (m : Metadata) (e : Endpoints) : (m.withEndpoints e).endpoints? = some e :=
  rfl

theorem NatRule.translate_protocol (rule : NatRule) (k : FlowKey) : (rule.translate k).protocol = k.protocol := by
  cases hk : rule.kind <;> simp [translate, hk]

/-! ## What a table makes of a flow -/

namespace NatTable

/-- What the rules make of a flow, whether it is tracked or not. -/
def ruled? (t : NatTable) (k : FlowKey) : Option FlowKey :=
  (t.rules.find? fun rule => rule.isMatch k).map fun rule => rule.translate k

/-- Whether a direction is tracked. -/
def tracks (t : NatTable) (k : FlowKey) : Bool :=
  (t.tracked.get? k).isSome

/-- What a flow becomes if it is opened by a packet: it must not be tracked yet, and some rule must match. -/
def opens? (t : NatTable) (k : FlowKey) : Option FlowKey :=
  if t.tracks k then none else t.ruled? k

/-- What a tracked direction becomes. -/
def target? (t : NatTable) (k : FlowKey) : Option FlowKey :=
  (t.tracked.get? k).map Tracked.translated

/-- What the packets of a direction become. -/
def fate (t : NatTable) (k : FlowKey) : FlowKey :=
  (t.target? k).getD ((t.ruled? k).getD k)

variable {t : NatTable} {k u x : FlowKey} {e : Tracked}

theorem opens?_eq_some : t.opens? k = some u ↔ t.tracked.get? k = none ∧ t.ruled? k = some u := by
  cases h : t.tracked.get? k <;> simp [opens?, tracks, h]

theorem tracks_eq_false : t.tracks k = false ↔ t.tracked.get? k = none := by
  simp [tracks]

theorem protocol_of_ruled? (h : t.ruled? k = some u) : u.protocol = k.protocol := by
  obtain ⟨rule, -, rfl⟩ := Option.map_eq_some_iff.1 h
  exact rule.translate_protocol k

theorem fate_of_target? (h : t.target? k = some u) : t.fate k = u := by
  simp [fate, h]

theorem fate_of_untracked (h : t.tracked.get? k = none) : t.fate k = (t.ruled? k).getD k := by
  simp [fate, target?, h]

/-! ## What one packet does -/

theorem translate?_of_tracked (now : Nat) (h : t.tracked.get? k = some e) :
    t.translate? now k = some (e.translated, { t with tracked := touch t.tracked k e.peer now }) := by
  simp [translate?, h]

theorem translate?_of_opens (now : Nat) (h : t.opens? k = some u) :
    ∃ list, t.translate? now k = some (u, ⟨list, track t.tracked k u now⟩) := by
  obtain ⟨hk, hr⟩ := opens?_eq_some.1 h
  obtain ⟨rule, hrule, rfl⟩ := Option.map_eq_some_iff.1 hr
  rw [rules, ← RuleList.map_fst_decide?] at hrule
  obtain ⟨⟨_, list⟩, hd, rfl⟩ := Option.map_eq_some_iff.1 hrule
  exact ⟨list, by simp [translate?, hk, hd]⟩

theorem translate?_of_untracked (now : Nat) (h : t.tracked.get? k = none) (hr : t.ruled? k = none) :
    t.translate? now k = none := by
  have hd : (t.list.decide? fun rule => rule.isMatch k).map Prod.fst = none := by
    rw [RuleList.map_fst_decide?]
    exact Option.map_eq_none_iff.1 hr
  simp [translate?, h, Option.map_eq_none_iff.1 hd]

/-- A packet that is neither tracked nor matched leaves as it came, and nothing is remembered of it. -/
theorem apply_of_untracked {now : Nat} {p : Packet} (hp : FlowKey.ofPacket? p = some k)
    (hk : t.tracked.get? k = none) (hr : t.ruled? k = none) : t.apply now p = (p, t) := by
  simp [apply, hp, translate?_of_untracked now hk hr]

/-- A packet leaves under what its direction becomes. -/
theorem fst_apply {now : Nat} {p : Packet} (hp : FlowKey.ofPacket? p = some k) :
    (t.apply now p).1 = if t.fate k = k then p else p.withEndpoints (t.fate k).ends := by
  cases hk : t.tracked.get? k with
  | some e =>
    have hfate : t.fate k = e.translated := fate_of_target? (by simp [target?, hk])
    simp [apply, hp, translate?_of_tracked now hk, hfate]
  | none =>
    rw [fate_of_untracked hk]
    cases hr : t.ruled? k with
    | none => simp [apply_of_untracked hp hk hr]
    | some u =>
      obtain ⟨list, hl⟩ := translate?_of_opens now (opens?_eq_some.2 ⟨hk, hr⟩)
      simp [apply, hp, hl]

/-- A packet leaves between the endpoints of what its direction becomes. -/
theorem endpoints?_apply {now : Nat} {p : Packet} (hp : FlowKey.ofPacket? p = some k) :
    (t.apply now p).1.metadata.endpoints? = some (t.fate k).ends := by
  rw [fst_apply hp]
  split
  · rename_i h
    rw [h]
    exact (FlowKey.ofPacket?_eq_some.1 hp).2
  · rfl

/-- A packet changes no rule. -/
theorem rules_apply (t : NatTable) (now : Nat) (p : Packet) : (t.apply now p).2.rules = t.rules := by
  cases hp : FlowKey.ofPacket? p with
  | none => simp [apply, hp]
  | some k =>
    cases hk : t.tracked.get? k with
    | some e =>
      simp only [apply, hp, translate?_of_tracked _ hk]
      rfl
    | none =>
      cases hd : t.list.decide? fun rule => rule.isMatch k with
      | none => simp [apply, hp, translate?, hk, hd]
      | some r =>
        simp only [apply, hp, translate?, hk, hd, Option.map_some]
        exact RuleList.rules_of_decide? hd

theorem get?_touch (m : Assoc FlowKey Tracked) (k peer x : FlowKey) (now : Nat) :
    (touch m k peer now).get? x =
      if x = k ∨ x = peer then (m.get? x).map fun e => { e with lastSeen := now } else m.get? x := by
  rw [touch, Assoc.get?_adjust, Assoc.get?_adjust]
  by_cases hk : x = k <;> by_cases hp : x = peer <;> cases hx : m.get? x <;> simp_all

theorem get?_track (m : Assoc FlowKey Tracked) (k u x : FlowKey) (now : Nat) :
    (track m k u now).get? x =
      if x = u.reverse then some ⟨k.reverse, k, now⟩ else if x = k then some ⟨u, u.reverse, now⟩ else m.get? x := by
  rw [track, Assoc.get?_insert, Assoc.get?_insert]

/-! ## What goes when it was idle -/

theorem get?_expire (t : NatTable) (now idle : Nat) (x : FlowKey) :
    (t.expire now idle).tracked.get? x = if x ∈ t.stale now idle then none else t.tracked.get? x := by
  have := Assoc.get?_filter t.tracked (fun k => decide (k ∉ t.stale now idle)) x
  rw [expire, this]
  by_cases hx : x ∈ t.stale now idle <;> simp [hx]

theorem mem_stale (hd : t.tracked.Distinct) {now idle : Nat} :
    x ∈ t.stale now idle ↔
      ∃ j e, t.tracked.get? j = some e ∧ (x = j ∨ x = e.peer) ∧ idle < now - e.lastSeen := by
  simp only [stale, List.mem_flatMap, List.mem_filter, List.mem_cons, List.not_mem_nil, or_false,
    decide_eq_true_eq]
  constructor
  · rintro ⟨⟨j, e⟩, ⟨hm, hi⟩, hx⟩
    exact ⟨j, e, (Assoc.mem_iff_get? hd).1 hm, hx, hi⟩
  · rintro ⟨j, e, hj, hx, hi⟩
    exact ⟨(j, e), ⟨(Assoc.mem_iff_get? hd).2 hj, hi⟩, hx⟩

end NatTable

/-! ## Events -/

/-- What a NAT table can be told, the passing of time included. -/
inductive NatEvent
  /-- A packet comes by. -/
  | packet (p : Packet)
  | addRule (rule : NatRule)
  | removeRule (rule : NatRule)
  | replaceRules (rules : List NatRule)
  /-- Time goes by, in nanoseconds. -/
  | wait (duration : Nat)
  /-- What was idle for longer than this goes. -/
  | expire (idle : Nat)
  /-- All flows go. -/
  | flush

/-- Whether an event leaves the tracked directions tracked. -/
def NatEvent.keepsFlows : NatEvent → Bool
  | .expire _ | .flush => false
  | _ => true

/-- A NAT table at a time. -/
structure NatState where
  table : NatTable
  now : Nat

/-- That a packet went by a tracked direction. -/
structure Passage where
  time : Nat
  key : FlowKey
  peer : FlowKey
  deriving DecidableEq, Repr

namespace NatState

/-- A table that was told nothing yet. -/
def start (now : Nat) : NatState :=
  ⟨.empty, now⟩

/-- What leaves when a packet comes by. -/
def send (s : NatState) (p : Packet) : Packet :=
  (s.table.apply s.now p).1

/-- The state after an event. -/
def step (s : NatState) : NatEvent → NatState
  | .packet p => { s with table := (s.table.apply s.now p).2 }
  | .addRule rule => { s with table := s.table.add rule }
  | .removeRule rule => { s with table := (s.table.remove? rule).getD s.table }
  | .replaceRules rules => { s with table := s.table.replaceRules rules }
  | .wait duration => { s with now := s.now + duration }
  | .expire idle => { s with table := s.table.expire s.now idle }
  | .flush => { s with table := s.table.flush }

/-- The state after events. -/
def run (s : NatState) (events : List NatEvent) : NatState :=
  events.foldl step s

/-- The flow that an event opens, if it does, and what the flow becomes. -/
def opened? (s : NatState) : NatEvent → Option (FlowKey × FlowKey)
  | .packet p => (FlowKey.ofPacket? p).bind fun k => (s.table.opens? k).map (k, ·)
  | _ => none

/-- The flows that events open, in order. -/
def opened (s : NatState) : List NatEvent → List (FlowKey × FlowKey)
  | [] => []
  | e :: rest => (s.opened? e).toList ++ (s.step e).opened rest

/-- The direction that an event goes by, if it is a packet that is translated. -/
def passage? (s : NatState) : NatEvent → Option Passage
  | .packet p => (FlowKey.ofPacket? p).bind fun k =>
    match s.table.tracked.get? k with
    | some e => some ⟨s.now, k, e.peer⟩
    | none => (s.table.opens? k).map fun u => ⟨s.now, k, u.reverse⟩
  | _ => none

/-- The passages of events, behind earlier ones; the latest comes first. -/
def passages (s : NatState) (past : List Passage) : List NatEvent → List Passage
  | [] => past
  | e :: rest => (s.step e).passages ((s.passage? e).toList ++ past) rest

/-- What an event can do to the tracked directions. -/
inductive Change (s : NatState) (e : NatEvent) : Prop
  /-- A packet of a tracked direction went by. -/
  | touched (k : FlowKey) (entry : Tracked) (hk : s.table.tracked.get? k = some entry)
      (tracked : (s.step e).table.tracked = NatTable.touch s.table.tracked k entry.peer s.now)
      (passage : s.passage? e = some ⟨s.now, k, entry.peer⟩) (opened : s.opened? e = none)
  /-- A rule opened a flow. -/
  | opened (k u : FlowKey) (hk : s.table.opens? k = some u)
      (tracked : (s.step e).table.tracked = NatTable.track s.table.tracked k u s.now)
      (passage : s.passage? e = some ⟨s.now, k, u.reverse⟩) (opened : s.opened? e = some (k, u))
  /-- No packet was translated, and nothing was forgotten. -/
  | kept (tracked : (s.step e).table.tracked = s.table.tracked) (passage : s.passage? e = none)
      (opened : s.opened? e = none)
  | expired (idle : Nat) (he : e = .expire idle)
  | flushed (he : e = .flush)

theorem change_packet (s : NatState) (p : Packet) : Change s (.packet p) := by
  cases hp : FlowKey.ofPacket? p with
  | none => exact .kept (by simp [step, NatTable.apply, hp]) (by simp [passage?, hp]) (by simp [opened?, hp])
  | some k =>
    cases hk : s.table.tracked.get? k with
    | some entry =>
      have ho : s.table.opens? k = none := by simp [NatTable.opens?, NatTable.tracks, hk]
      refine .touched k entry hk ?_ (by simp [passage?, hp, hk]) (by simp [opened?, hp, ho])
      simp [step, NatTable.apply, hp, NatTable.translate?_of_tracked _ hk]
    | none =>
      cases hr : s.table.ruled? k with
      | some u =>
        have ho := NatTable.opens?_eq_some.2 ⟨hk, hr⟩
        obtain ⟨list, hl⟩ := NatTable.translate?_of_opens s.now ho
        refine .opened k u ho ?_ (by simp [passage?, hp, hk, ho]) (by simp [opened?, hp, ho])
        simp [step, NatTable.apply, hp, hl]
      | none =>
        have ho : s.table.opens? k = none := by simp [NatTable.opens?, NatTable.tracks, hk, hr]
        refine .kept ?_ (by simp [passage?, hp, hk, ho]) (by simp [opened?, hp, ho])
        simp [step, NatTable.apply, hp, NatTable.translate?_of_untracked _ hk hr]

/-- Every event does one of these. -/
theorem change (s : NatState) (e : NatEvent) : Change s e := by
  cases e with
  | packet p => exact s.change_packet p
  | addRule rule => exact .kept rfl rfl rfl
  | replaceRules rules => exact .kept rfl rfl rfl
  | wait duration => exact .kept rfl rfl rfl
  | expire idle => exact .expired idle rfl
  | flush => exact .flushed rfl
  | removeRule rule =>
    refine .kept ?_ rfl rfl
    cases hr : s.table.remove? rule with
    | none => simp [step, hr]
    | some t =>
      obtain ⟨list, -, rfl⟩ := Option.map_eq_some_iff.1 hr
      simp [step, hr]

/-- What every event carries on, with what it adds to the past, holds after all of them. -/
theorem run_induction {holds : NatState → List Passage → Prop}
    (hstep : ∀ s past e, holds s past → holds (s.step e) ((s.passage? e).toList ++ past)) {s : NatState}
    {past : List Passage} (h : holds s past) (events : List NatEvent) :
    holds (s.run events) (s.passages past events) := by
  induction events generalizing s past with
  | nil => exact h
  | cons e rest ih => exact ih (hstep s past e h)

/-- Time does not go back. -/
theorem now_le_step (s : NatState) (e : NatEvent) : s.now ≤ (s.step e).now := by
  cases e <;> simp [step]

/-! ## Hosts behind one port -/

/-- A rule that gives every flow the same source. -/
def oneSource : NatRule :=
  ⟨.source, none, none, none, none, .v4 0xCB00710A, some 40000⟩

/-- A flow of the host `10.1.2.n` to a name server. -/
def hostFlow (n : Nat) : FlowKey :=
  ⟨.udp, .v4 (0x0A010200 + BitVec.ofNat 32 n), 1234, .v4 0x08080808, 53⟩

/-- What the flow of any of the hosts becomes. -/
def sharedFlow : FlowKey :=
  ⟨.udp, .v4 0xCB00710A, 40000, .v4 0x08080808, 53⟩

end NatState

end Router
