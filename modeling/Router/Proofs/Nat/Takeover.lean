import Router.Proofs.Nat.History

/-!
# How long a flow keeps its directions

A rule opened the flow `k`, which became `u`. From then on packets of `k` leave as `u` and packets of `u.reverse` leave
as `k.reverse`, and no edit of the rules changes that. What does is another flow: one that is opened later and becomes
`u` takes over the direction of the replies, and one that becomes `k.reverse` takes over `k` itself. Main statement:
as long as nothing is forgotten, a direction is kept exactly until such a flow is opened, and never comes back after
that (`flow_kept_iff`). The hosts behind one translated address and port do take the replies from each other
(`replies_taken_over`).
-/

namespace Router.NatState

variable {s : NatState} {e : NatEvent} {k u x y : FlowKey}

/-- The endpoints between which the packets of a tracked direction leave. -/
def sends (s : NatState) (x : FlowKey) : Option Endpoints :=
  (s.table.target? x).map FlowKey.ends

theorem sends_of_get? {entry : Tracked} (h : s.table.tracked.get? x = some entry) :
    s.sends x = some entry.translated.ends := by
  simp [sends, NatTable.target?, h]

theorem tracks_of_sends {ends : Endpoints} (h : s.sends x = some ends) : s.table.tracks x = true := by
  cases hx : s.table.tracked.get? x with
  | none => simp [sends, NatTable.target?, hx] at h
  | some entry => simp [NatTable.tracks, hx]

theorem endpoints?_send {q : Packet} {ends : Endpoints} (hq : FlowKey.ofPacket? q = some x)
    (hx : s.table.tracks x = true) :
    (s.send q).metadata.endpoints? = some ends ↔ s.sends x = some ends := by
  obtain ⟨entry, hentry⟩ := Option.isSome_iff_exists.1 hx
  have hfate : s.table.fate x = entry.translated := NatTable.fate_of_target? (by simp [NatTable.target?, hentry])
  rw [send, NatTable.endpoints?_apply hq, hfate, sends_of_get? hentry]

/-! ## One event -/

theorem tracks_step (he : e.keepsFlows = true) (hx : s.table.tracks x = true) : (s.step e).table.tracks x = true := by
  unfold NatTable.tracks at hx ⊢
  cases s.change e with
  | touched k entry hk tracked =>
    rw [tracked, NatTable.get?_touch]
    split
    · simpa using hx
    · exact hx
  | opened k u hk tracked =>
    rw [tracked, NatTable.get?_track]
    split
    · rfl
    · split
      · rfl
      · exact hx
  | kept tracked => rw [tracked]; exact hx
  | expired idle h => subst h; cases he
  | flushed h => subst h; cases he

/-- A tracked direction goes on leading to a tracked one unless the event opens a flow that takes it over. The opened
flow was not tracked before, so what it leads to is another. -/
theorem sends_step_iff (he : e.keepsFlows = true) (hp : x.protocol = y.protocol) (hx : s.table.tracks x = true)
    (hy : s.table.tracks y = true) :
    (s.step e).sends x = some y.reverse.ends ↔
      s.sends x = some y.reverse.ends ∧ ∀ f, s.opened? e = some f → f.2 ≠ x.reverse := by
  cases s.change e with
  | touched k entry hk tracked _ hopened =>
    have same : (s.step e).sends x = s.sends x := by
      simp only [sends, NatTable.target?, tracked, NatTable.get?_touch]
      split
      · rw [Option.map_map, Option.map_map, Option.map_map]
        rfl
      · rfl
    simp [same, hopened]
  | opened k u hk tracked _ hopened =>
    obtain ⟨hfree, hruled⟩ := NatTable.opens?_eq_some.1 hk
    have hxk : x ≠ k := fun h => by simp [NatTable.tracks, h, hfree] at hx
    have hyk : y ≠ k := fun h => by simp [NatTable.tracks, h, hfree] at hy
    have after : (s.step e).sends x = if x = u.reverse then some k.reverse.ends else s.sends x := by
      simp only [sends, NatTable.target?, tracked, NatTable.get?_track]
      by_cases hxu : x = u.reverse <;> simp [hxu, hxk]
    rw [after, hopened]
    by_cases hxu : x = u.reverse
    · have hne : some k.reverse.ends ≠ some y.reverse.ends := by
        intro h
        have hprotocol : k.protocol = y.protocol := by
          rw [← NatTable.protocol_of_ruled? hruled, ← hp, hxu]
          rfl
        exact hyk (FlowKey.eq_of_reverse_ends hprotocol (Option.some.inj h)).symm
      simp [hxu, hne]
    · have hux : u ≠ x.reverse := fun h => hxu (by rw [h, FlowKey.reverse_reverse])
      simp [hxu, hux]
  | kept tracked _ hopened => simp [sends, NatTable.target?, tracked, hopened]
  | expired idle h => subst h; cases he
  | flushed h => subst h; cases he

/-! ## All later events -/

theorem tracks_run {later : List NatEvent} (hl : ∀ e ∈ later, e.keepsFlows = true) (hx : s.table.tracks x = true) :
    (s.run later).table.tracks x = true := by
  induction later generalizing s with
  | nil => exact hx
  | cons e rest ih =>
    have he := hl e List.mem_cons_self
    exact ih (fun e' h => hl e' (List.mem_cons_of_mem _ h)) (tracks_step he hx)

theorem sends_run_iff {later : List NatEvent} (hl : ∀ e ∈ later, e.keepsFlows = true)
    (hp : x.protocol = y.protocol) (hx : s.table.tracks x = true) (hy : s.table.tracks y = true) :
    (s.run later).sends x = some y.reverse.ends ↔
      s.sends x = some y.reverse.ends ∧ ∀ f ∈ s.opened later, f.2 ≠ x.reverse := by
  induction later generalizing s with
  | nil => simp [run, opened]
  | cons e rest ih =>
    have he := hl e List.mem_cons_self
    have hrest : ∀ e' ∈ rest, e'.keepsFlows = true := fun e' h => hl e' (List.mem_cons_of_mem _ h)
    have hstep := sends_step_iff (e := e) he hp hx hy
    calc ((s.step e).run rest).sends x = some y.reverse.ends
      _ ↔ (s.step e).sends x = some y.reverse.ends ∧ ∀ f ∈ (s.step e).opened rest, f.2 ≠ x.reverse :=
        ih hrest (tracks_step he hx) (tracks_step he hy)
      _ ↔ s.sends x = some y.reverse.ends ∧ ∀ f ∈ s.opened (e :: rest), f.2 ≠ x.reverse := by
        rw [hstep, and_assoc]
        simp only [opened, List.mem_append, Option.mem_toList]
        grind

/-! ## A flow from its first packet on -/

/-- Right after its first packet, a flow leads both ways. -/
theorem sends_of_opens {p : Packet} (hp : FlowKey.ofPacket? p = some k) (ho : s.table.opens? k = some u) :
    (s.step (.packet p)).sends u.reverse = some k.reverse.ends ∧ (s.step (.packet p)).sends k = some u.ends := by
  obtain ⟨list, hl⟩ := NatTable.translate?_of_opens s.now ho
  have tracked : (s.step (.packet p)).table.tracked = NatTable.track s.table.tracked k u s.now := by
    simp [step, NatTable.apply, hp, hl]
  constructor
  · simp [sends, NatTable.target?, tracked, NatTable.get?_track]
  · by_cases h : k = u.reverse
    · subst h
      simp [sends, NatTable.target?, tracked, NatTable.get?_track]
    · simp [sends, NatTable.target?, tracked, NatTable.get?_track, h]

/-- The flow `k` was opened and became `u`. As long as no flow is forgotten, its replies leave as `k.reverse` exactly
until a flow is opened that becomes `u` too, and its packets leave as `u` exactly until one is opened that becomes
`k.reverse`. Edits of the rules and the passing of time change neither. -/
theorem flow_kept_iff {p q : Packet} {later : List NatEvent} (hp : FlowKey.ofPacket? p = some k)
    (ho : s.table.opens? k = some u) (hl : ∀ e ∈ later, e.keepsFlows = true) :
    (s.send p).metadata.endpoints? = some u.ends ∧
    (FlowKey.ofPacket? q = some u.reverse →
      ((((s.step (.packet p)).run later).send q).metadata.endpoints? = some k.reverse.ends ↔
        ∀ f ∈ (s.step (.packet p)).opened later, f.2 ≠ u)) ∧
    (FlowKey.ofPacket? q = some k →
      ((((s.step (.packet p)).run later).send q).metadata.endpoints? = some u.ends ↔
        ∀ f ∈ (s.step (.packet p)).opened later, f.2 ≠ k.reverse)) := by
  obtain ⟨hfree, hruled⟩ := NatTable.opens?_eq_some.1 ho
  obtain ⟨hreply, hforth⟩ := sends_of_opens hp ho
  have hprotocol : u.reverse.protocol = k.protocol := by
    rw [← NatTable.protocol_of_ruled? hruled]
    rfl
  have hk := tracks_of_sends hforth
  have hu := tracks_of_sends hreply
  refine ⟨?_, fun hq => ?_, fun hq => ?_⟩
  · rw [send, NatTable.endpoints?_apply hp, NatTable.fate_of_untracked hfree, hruled]
    rfl
  · rw [endpoints?_send hq (tracks_run hl hu), sends_run_iff hl hprotocol hu hk, FlowKey.reverse_reverse]
    exact and_iff_right hreply
  · rw [endpoints?_send hq (tracks_run hl hk)]
    have := sends_run_iff hl hprotocol.symm hk hu
    rw [FlowKey.reverse_reverse] at this
    rw [this]
    exact and_iff_right hforth

/-! ## Hosts behind one port -/

/-- A flow that is alone keeps its replies when its rule is removed. -/
theorem flow_kept_alone :
    ((start 0).step (.addRule oneSource)).table.opens? (hostFlow 3) = some sharedFlow ∧
    (((((start 0).step (.addRule oneSource)).step (.packet (hostFlow 3).packet)).run
      [.wait 60, .replaceRules []]).send sharedFlow.reverse.packet).metadata.endpoints? =
        some (hostFlow 3).reverse.ends :=
  ⟨by decide, ((flow_kept_iff (u := sharedFlow) rfl (by decide) (by decide)).2.1 rfl).2 (by decide)⟩

/-- Replies do not stay with the flow that was opened first: the next host takes them over. -/
theorem replies_taken_over :
    ¬ ∀ (s : NatState) (p q : Packet) (k u : FlowKey) (later : List NatEvent), FlowKey.ofPacket? p = some k →
      s.table.opens? k = some u → (∀ e ∈ later, e.keepsFlows = true) → FlowKey.ofPacket? q = some u.reverse →
      (((s.step (.packet p)).run later).send q).metadata.endpoints? = some k.reverse.ends := by
  intro h
  have first := h ((start 0).step (.addRule oneSource)) (hostFlow 3).packet sharedFlow.reverse.packet (hostFlow 3)
    sharedFlow [.packet (hostFlow 4).packet] rfl (by decide) (by decide) rfl
  exact absurd first (by decide)

end Router.NatState
