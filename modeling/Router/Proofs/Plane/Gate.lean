import Router.Proofs.Firewall
import Router.Proofs.Nat.History
import Router.Proofs.Plane.Sentry

/-!
# The gate of a router

Before the queues a packet comes by the routes, NAT, the filter and the detector. They are the gate of the router,
which does not ask what waits in the queues, nor how often a rule decided before or what the counters say. So whether a
packet is refused there, and as what it comes to the queues, is told by the routes, the rules and defaults of the
filter, the rules and flows of NAT, the detector and the own addresses alone (`SameGate.refusal?_eq`,
`SameGate.forward_fst_eq`), and routers that have them in common have them in common after each packet
(`SameGate.process`). Main statements: a packet that the gate refuses leaves the queues as they are, and any other is
offered to them (`disposition_process`, `qos_process`).
-/

namespace Router

/-! ## Engines that counted differently -/

namespace NatTable

variable {t u : NatTable}

/-- Hits are not asked for. -/
theorem translate?_congr (hrules : t.rules = u.rules) (htracked : t.tracked = u.tracked) (now : Nat) (key : FlowKey) :
    ((t.translate? now key).map fun r => (r.1, r.2.tracked)) =
      (u.translate? now key).map fun r => (r.1, r.2.tracked) := by
  have hruled : t.ruled? key = u.ruled? key := by rw [ruled?, ruled?, hrules]
  cases ht : t.tracked.get? key with
  | some entry =>
    rw [translate?_of_tracked now ht, translate?_of_tracked now (htracked ▸ ht), htracked]
    rfl
  | none =>
    have hu : u.tracked.get? key = none := htracked ▸ ht
    cases hr : t.ruled? key with
    | none => rw [translate?_of_untracked now ht hr, translate?_of_untracked now hu (hruled ▸ hr)]
    | some translated =>
      obtain ⟨_, hopened⟩ := translate?_of_opens now (opens?_eq_some.2 ⟨ht, hr⟩)
      obtain ⟨_, hopened'⟩ := translate?_of_opens now (opens?_eq_some.2 ⟨hu, hruled ▸ hr⟩)
      rw [hopened, hopened', htracked]
      rfl

theorem apply_congr (hrules : t.rules = u.rules) (htracked : t.tracked = u.tracked) (now : Nat) (p : Packet) :
    (t.apply now p).1 = (u.apply now p).1 ∧ (t.apply now p).2.tracked = (u.apply now p).2.tracked := by
  unfold apply
  cases FlowKey.ofPacket? p with
  | none => exact ⟨rfl, htracked⟩
  | some key =>
    have hsame := translate?_congr hrules htracked now key
    dsimp only
    cases ht : t.translate? now key with
    | none =>
      rw [ht, Option.map_none, eq_comm, Option.map_eq_none_iff] at hsame
      rw [hsame]
      exact ⟨rfl, htracked⟩
    | some r =>
      rw [ht, Option.map_some, eq_comm, Option.map_eq_some_iff] at hsame
      obtain ⟨r', hu, hr⟩ := hsame
      obtain ⟨htranslated, htable⟩ := Prod.mk.inj hr
      rw [hu]
      dsimp only
      rw [htranslated]
      exact ⟨rfl, htable.symm⟩

end NatTable

/-! ## What is refused -/

/-- What the queues make of a packet that is offered to them. -/
def Admission.disposition (a : Admission) : Disposition :=
  if a.accepted then .queued a.className else .queueFull a.className

namespace Plane

variable {pl : Plane} {now : Nat} {p : Packet}

/-- What becomes of a packet that does not come to the queues. -/
def refusal? (pl : Plane) (now : Nat) (p : Packet) : Option Disposition :=
  let q := (pl.forward now p).1
  let verdict := (pl.firewall.evaluate (pl.chainFor q.metadata.destination) q).1
  if verdict ≠ .accept then some (.filtered verdict)
  else if (pl.sentry.detection now p).drop then some (.blocked (pl.sentry.detection now p).alert)
  else none

/-- On its way to the filter a packet changes no more than flows and counters. -/
theorem forward_plane (pl : Plane) (now : Nat) (p : Packet) :
    ∃ nat metrics, (pl.forward now p).2 = { pl with nat, metrics } := by
  unfold forward
  split
  · obtain ⟨nat, metrics, htranslate⟩ := (pl.route p).2.translate_plane now (pl.route p).1 true
    obtain ⟨_, hroute⟩ | hroute := pl.route_cases p
    · exact ⟨nat, metrics, htranslate.trans (by rw [hroute])⟩
    · exact ⟨nat, metrics, htranslate.trans (by rw [hroute]; rfl)⟩
  · exact pl.translate_plane now p false

theorem filter_forward (pl : Plane) (now : Nat) (p : Packet) :
    let q := (pl.forward now p).1
    ((pl.forward now p).2.filter q).1 = (pl.firewall.evaluate (pl.chainFor q.metadata.destination) q).1 ∧
      (pl.judged now p).firewall = (pl.firewall.evaluate (pl.chainFor q.metadata.destination) q).2 ∧
      (pl.judged now p).localAddresses = pl.localAddresses := by
  obtain ⟨_, _, hforward⟩ := pl.forward_plane now p
  simp only [judged, hforward]
  exact ⟨rfl, rfl, rfl⟩

/-- What is refused at the gate ends there, and any other packet is offered to the queues. -/
theorem process_eq (pl : Plane) (now : Nat) (p : Packet) :
    (pl.process now p).disposition =
        (pl.refusal? now p).getD (pl.qos.enqueue (pl.forward now p).1).1.disposition ∧
      (pl.process now p).plane.qos =
        if (pl.refusal? now p).isSome then pl.qos else (pl.qos.enqueue (pl.forward now p).1).2 := by
  obtain ⟨hverdict, -, -⟩ := pl.filter_forward now p
  have hdetection : ((pl.judged now p).inspect now (pl.forward now p).1).1 = pl.sentry.detection now p :=
    congrArg Prod.fst (pl.detect_judged now p)
  rw [judged] at hdetection
  unfold process
  dsimp only
  split
  · rename_i hrefused
    have hrefusal : pl.refusal? now p = some (.filtered ((pl.forward now p).2.filter (pl.forward now p).1).1) := by
      simp only [refusal?, ← hverdict, if_pos hrefused]
    rw [hrefusal]
    simp
  · rename_i haccept
    split
    · rename_i hdrop
      have hrefusal : pl.refusal? now p = some (.blocked (pl.sentry.detection now p).alert) := by
        simp only [refusal?, ← hverdict, if_neg haccept, if_pos (hdetection ▸ hdrop)]
      rw [hrefusal, hdetection]
      simp
    · rename_i hpass
      have hrefusal : pl.refusal? now p = none := by
        simp only [refusal?, ← hverdict, if_neg haccept, if_neg (hdetection ▸ hpass)]
      rw [hrefusal]
      split <;> rename_i haccepted <;>
        simp only [enqueue_fst, inspect_qos, filter_qos, forward_qos] at haccepted <;>
        simp [Admission.disposition, haccepted]

theorem disposition_process (pl : Plane) (now : Nat) (p : Packet) :
    (pl.process now p).disposition =
      (pl.refusal? now p).getD (pl.qos.enqueue (pl.forward now p).1).1.disposition :=
  (pl.process_eq now p).1

theorem qos_process (pl : Plane) (now : Nat) (p : Packet) :
    (pl.process now p).plane.qos =
      if (pl.refusal? now p).isSome then pl.qos else (pl.qos.enqueue (pl.forward now p).1).2 :=
  (pl.process_eq now p).2

/-! ## What the gate is -/

/-- Two routers that have all in common that has a say in what becomes of a packet before the queues. -/
structure SameGate (a b : Plane) : Prop where
  routing : a.routing = b.routing
  filterRules : a.firewall.rules = b.firewall.rules
  defaults : a.firewall.defaults = b.firewall.defaults
  natRules : a.nat.rules = b.nat.rules
  tracked : a.nat.tracked = b.nat.tracked
  ids : a.ids = b.ids
  localAddresses : a.localAddresses = b.localAddresses

section SameGate

variable {a b c : Plane}

theorem SameGate.refl (a : Plane) : SameGate a a :=
  ⟨rfl, rfl, rfl, rfl, rfl, rfl, rfl⟩

theorem SameGate.symm (h : SameGate a b) : SameGate b a :=
  ⟨h.routing.symm, h.filterRules.symm, h.defaults.symm, h.natRules.symm, h.tracked.symm, h.ids.symm,
    h.localAddresses.symm⟩

theorem SameGate.trans (h : SameGate a b) (h' : SameGate b c) : SameGate a c :=
  ⟨h.routing.trans h'.routing, h.filterRules.trans h'.filterRules, h.defaults.trans h'.defaults,
    h.natRules.trans h'.natRules, h.tracked.trans h'.tracked, h.ids.trans h'.ids,
    h.localAddresses.trans h'.localAddresses⟩

theorem SameGate.apply_fst_eq (h : SameGate a b) (now : Nat) (p : Packet) :
    (a.nat.apply now p).1 = (b.nat.apply now p).1 :=
  (NatTable.apply_congr h.natRules h.tracked now p).1

theorem SameGate.outlet?_eq (h : SameGate a b) (x : Option Address) : a.outlet? x = b.outlet? x := by
  rw [outlet?, outlet?, h.routing]

/-- A packet that came with an interface keeps it. -/
theorem forward_fst_of_preset (h : p.egress ≠ "") : (pl.forward now p).1 = (pl.nat.apply now p).1 := by
  have hforward : (pl.forward now p).1 = (pl.translate now p false).1 := by simp [forward, h]
  rw [hforward, translate]
  dsimp only
  split <;> rfl

/-- The same packets come to the filter. -/
theorem SameGate.forward_fst_eq (h : SameGate a b) (now : Nat) (p : Packet) :
    (a.forward now p).1 = (b.forward now p).1 := by
  by_cases hp : p.egress = ""
  · rw [forward_fst hp, forward_fst hp, h.apply_fst_eq, h.outlet?_eq, h.outlet?_eq]
  · rw [forward_fst_of_preset hp, forward_fst_of_preset hp, h.apply_fst_eq]

theorem SameGate.refusal?_eq (h : SameGate a b) (now : Nat) (p : Packet) : a.refusal? now p = b.refusal? now p := by
  have hchain : ∀ x, a.chainFor x = b.chainFor x := fun x => by rw [chainFor, chainFor, h.localAddresses]
  have hverdict : ∀ chain q, (a.firewall.evaluate chain q).1 = (b.firewall.evaluate chain q).1 :=
    Firewall.evaluate_congr h.filterRules h.defaults
  have hdetection : a.sentry.detection now p = b.sentry.detection now p := by
    simp only [Sentry.detection, sentry, h.apply_fst_eq, h.ids]
  rw [refusal?, refusal?, h.forward_fst_eq, hchain, hverdict, hdetection]

/-- After the detector comes nothing of the gate. -/
theorem process_gate (pl : Plane) (now : Nat) (p : Packet) :
    (pl.process now p).plane.firewall = (pl.judged now p).firewall ∧
      (pl.process now p).plane.localAddresses = (pl.judged now p).localAddresses := by
  have hinspect : ((pl.judged now p).inspect now (pl.forward now p).1).2.firewall = (pl.judged now p).firewall ∧
      ((pl.judged now p).inspect now (pl.forward now p).1).2.localAddresses = (pl.judged now p).localAddresses := by
    unfold inspect
    dsimp only
    split <;> exact ⟨rfl, rfl⟩
  have henqueue : ∀ (pl : Plane) (q : Packet), (pl.enqueue q).2.firewall = pl.firewall ∧
      (pl.enqueue q).2.localAddresses = pl.localAddresses := by
    intro pl q
    unfold enqueue
    dsimp only
    split <;> split <;> exact ⟨rfl, rfl⟩
  rw [← hinspect.1, ← hinspect.2]
  unfold process
  dsimp only
  split
  · exact ⟨rfl, rfl⟩
  · split
    · exact ⟨rfl, rfl⟩
    · split <;> exact henqueue _ _

/-- A packet changes no more of the gate than its flows and what the detector has seen. -/
theorem sameGate_process (pl : Plane) (now : Nat) (p : Packet) :
    SameGate (pl.process now p).plane
      { pl with nat := (pl.nat.apply now p).2, ids := (pl.ids.detect now (pl.nat.apply now p).1).2 } := by
  obtain ⟨-, hfirewall, haddresses⟩ := pl.filter_forward now p
  obtain ⟨hfirewall', haddresses'⟩ := pl.process_gate now p
  have hsentry := pl.sentry_process now p
  have hnat : (pl.process now p).plane.nat = (pl.nat.apply now p).2 := congrArg Sentry.nat hsentry
  refine ⟨pl.process_routing now p, ?_, ?_, congrArg NatTable.rules hnat, congrArg NatTable.tracked hnat,
    congrArg Sentry.ids hsentry, haddresses'.trans haddresses⟩
  · rw [hfirewall', hfirewall]
    exact pl.firewall.rules_evaluate _ _
  · rw [hfirewall', hfirewall]
    exact pl.firewall.defaults_evaluate _ _

theorem SameGate.process (h : SameGate a b) (now : Nat) (p : Packet) :
    SameGate (a.process now p).plane (b.process now p).plane := by
  refine (sameGate_process a now p).trans (.trans ?_ (sameGate_process b now p).symm)
  refine ⟨h.routing, h.filterRules, h.defaults, ?_, (NatTable.apply_congr h.natRules h.tracked now p).2, ?_,
    h.localAddresses⟩
  · exact (a.nat.rules_apply now p).trans (h.natRules.trans (b.nat.rules_apply now p).symm)
  · simp only [h.ids, h.apply_fst_eq]

/-- Sending concerns queues and counters only. -/
theorem sameGate_egressOnce (pl : Plane) (now batch : Nat) (sends : Nat → Frame → Bool) :
    SameGate (pl.egressOnce now batch sends).plane pl :=
  ⟨rfl, rfl, rfl, rfl, rfl, rfl, rfl⟩

end SameGate

end Plane

end Router
