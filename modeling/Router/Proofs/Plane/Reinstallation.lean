import Router.Proofs.Plane.Gate
import Router.Proofs.Snapshot

/-!
# A router that is told its own snapshot

Installing a snapshot takes the classes of a router apart, finds their queues by name and puts them in order again. Its
own snapshot comes to the classes it has, each with its queue as it is (`Scheduler.replace_classes_self`). So all that
is left of it is that the hits of the filter and of NAT are counted anew (`Plane.install_ofPlane_self`), and nothing
asks for hits (`SameService.answer?_eq`). Main statement: a router in service may be told its own snapshot as often as
one likes, without a difference in what becomes of any packet or in what leaves the queues (`PlaneState.reinstalled`).
-/

namespace Router

/-! ## The queues -/

namespace ClassQueue

theorem redefine_self (q : ClassQueue) (now : Nat) : q.redefine q.definition now = q := by
  simp [redefine]

end ClassQueue

namespace Scheduler

variable {s : Scheduler}

theorem installed_self (h : s.Named) (now : Nat) {q : ClassQueue} (hq : q ∈ s.ranked) :
    s.installed now q.definition = q := by
  have hfind : s.ranked.find? (·.definition.name = q.definition.name) = some q :=
    (Assoc.find?_eq_some_iff h.distinct).2 ⟨hq, rfl⟩
  rw [installed, hfind]
  exact q.redefine_self now

theorem otherNames_classes (h : s.Named) : otherNames s.classes = s.rankedNames := by
  rw [otherNames, firstByName_of_nodup h.nodup_names, h.filter_classes, List.map_map]
  rfl

/-- The classes of a scheduler are the ones that change nothing. -/
theorem replace_classes_self (h : s.Named) (horder : s.InOrder) (now : Nat) : s.replace now s.classes = (s, []) := by
  have hdistinct := firstByName_of_nodup h.nodup_names
  have hranked : (s.replace now s.classes).1.ranked = s.ranked := by
    have hinstalled : (s.ranked.map ClassQueue.definition).map (s.installed now) = s.ranked := by
      rw [List.map_map]
      exact (List.map_congr_left fun q hq => installed_self h now hq).trans (List.map_id _)
    rw [replace_ranked, hdistinct, h.filter_classes, hinstalled]
    exact Ranking.rank_of_sorted (horder.ranked h)
  have hfallback : (s.replace now s.classes).1.fallback = s.fallback := by
    have hlisted : (s.replace now s.classes).1.fallback =
        ((firstByName s.classes).find? TrafficClass.isDefault).elim s.fallback fun c => s.fallback.redefine c now := by
      rw [replace]
      cases (firstByName s.classes).find? TrafficClass.isDefault <;> rfl
    rw [hlisted, hdistinct, h.find?_classes]
    exact s.fallback.redefine_self now
  have hgone : (s.replace now s.classes).2 = [] := by
    have hlisted : ∀ q ∈ s.ranked, q.name ∈ s.rankedNames := fun q hq => List.mem_map_of_mem hq
    rw [replace_snd h, otherNames_classes h, List.filter_eq_nil_iff.2 (by simpa using hlisted)]
    rfl
  calc
    s.replace now s.classes =
        (⟨(s.replace now s.classes).1.ranked, (s.replace now s.classes).1.fallback⟩, (s.replace now s.classes).2) := rfl
    _ = (s, []) := by rw [hranked, hfallback, hgone]

end Scheduler

/-! ## What is left of an installation -/

theorem RuleList.fresh_rules {ρ : Type} (list : RuleList ρ) : fresh list.rules = list.resetHits := by
  rw [fresh, rules, List.map_map]
  rfl

namespace Plane

variable {pl : Plane}

/-- The router with the hits of its filter and NAT rules counted anew. -/
def withoutHits (pl : Plane) : Plane :=
  { pl with firewall := pl.firewall.resetHits, nat := { pl.nat with list := pl.nat.list.resetHits } }

/-- A router that is told its own snapshot gives up no packet and counts hits anew, and nothing else of it changes. -/
theorem install_ofPlane_self (h : pl.Orderly) (now : Nat) :
    pl.install now (Snapshot.ofPlane pl) = (pl.withoutHits, []) := by
  have hqos : pl.qos.replace now (Snapshot.ofPlane pl).qosClasses = (pl.qos, []) :=
    Scheduler.replace_classes_self h.named h.inOrder now
  have hfirewall : Firewall.ofRules (Snapshot.ofPlane pl).firewallRules (Snapshot.ofPlane pl).defaults =
      pl.firewall.resetHits := by
    rw [Snapshot.defaults_ofPlane, Firewall.ofRules]
    exact congrArg (Firewall.mk · _ _) (RuleList.fresh_rules _)
  have hnat : pl.nat.replaceRules (Snapshot.ofPlane pl).natRules = { pl.nat with list := pl.nat.list.resetHits } :=
    congrArg (NatTable.mk · _) (RuleList.fresh_rules _)
  have hrouting : RoutingTable.ofList (Snapshot.ofPlane pl).routes = pl.routing := h.routing.symm
  rw [install, hqos, hfirewall, hnat, hrouting]
  rfl

theorem sameGate_withoutHits (pl : Plane) : SameGate pl.withoutHits pl :=
  ⟨rfl, RuleList.rules_resetHits _, rfl, RuleList.rules_resetHits _, rfl, rfl, rfl⟩

end Plane

/-! ## A router in service -/

/-- What a router in service is told. -/
inductive ServiceEvent
  | process (p : Packet)
  /-- The next packet is taken out, if any may leave. -/
  | dequeue
  /-- Time goes by, in nanoseconds. -/
  | wait (duration : Nat)
  /-- The snapshot of the router is taken, and installed in it. -/
  | reinstall

/-- Whether the router is told its own snapshot. -/
def ServiceEvent.isReinstall : ServiceEvent → Bool
  | .reinstall => true
  | .process _ | .dequeue | .wait _ => false

/-- What a router in service says. -/
inductive ServiceAnswer
  /-- What became of a packet. -/
  | became (disposition : Disposition)
  /-- What was taken out of the queues, if anything. -/
  | left (p : Option Packet)
  deriving DecidableEq

namespace PlaneState

open Plane

variable {s t : PlaneState} {e : ServiceEvent}

/-- The state after an event. -/
def serve (s : PlaneState) : ServiceEvent → PlaneState
  | .process p => { s with plane := (s.plane.process s.now p).plane }
  | .dequeue => { s with plane := { s.plane with qos := (s.plane.qos.dequeue s.now).2 } }
  | .wait duration => { s with now := s.now + duration }
  | .reinstall => { s with plane := (s.plane.install s.now (Snapshot.ofPlane s.plane)).1 }

/-- The state after events. -/
def serveAll (s : PlaneState) (events : List ServiceEvent) : PlaneState :=
  events.foldl serve s

/-- What is said of an event, if anything. -/
def answer? (s : PlaneState) : ServiceEvent → Option ServiceAnswer
  | .process p => some (.became (s.plane.process s.now p).disposition)
  | .dequeue => some (.left (s.plane.qos.dequeue s.now).1)
  | .wait _ | .reinstall => none

/-- What is said of events, in order. -/
def answers (s : PlaneState) : List ServiceEvent → List ServiceAnswer
  | [] => []
  | e :: rest => (s.answer? e).toList ++ (s.serve e).answers rest

theorem orderly_serve (h : s.plane.Orderly) (e : ServiceEvent) : (s.serve e).plane.Orderly := by
  cases e with
  | process p => exact h.process s.now p
  | dequeue => exact h.of_classes rfl (s.plane.qos.classes_dequeue s.now)
  | wait duration => exact h
  | reinstall => exact h.install s.now _

theorem orderly_serveAll (h : s.plane.Orderly) (events : List ServiceEvent) : (s.serveAll events).plane.Orderly := by
  induction events generalizing s with
  | nil => exact h
  | cons e rest ih => exact ih (orderly_serve h e)

/-- Two routers at the same time with the same gate and the same queues. -/
structure SameService (s t : PlaneState) : Prop where
  now : s.now = t.now
  gate : SameGate s.plane t.plane
  qos : s.plane.qos = t.plane.qos

theorem SameService.answer?_eq (h : SameService s t) (e : ServiceEvent) : s.answer? e = t.answer? e := by
  cases e with
  | process p =>
    simp only [answer?, disposition_process, h.now, h.qos, h.gate.refusal?_eq, h.gate.forward_fst_eq]
  | dequeue => simp only [answer?, h.now, h.qos]
  | wait _ | reinstall => rfl

/-- An event that both routers are told. -/
theorem SameService.serve (h : SameService s t) (he : e.isReinstall = false) :
    SameService (s.serve e) (t.serve e) := by
  cases e with
  | process p =>
    refine ⟨h.now, ?_, ?_⟩
    · simp only [PlaneState.serve, h.now]
      exact h.gate.process t.now p
    · simp only [PlaneState.serve, qos_process, h.now, h.qos, h.gate.refusal?_eq, h.gate.forward_fst_eq]
  | dequeue =>
    obtain ⟨hnow, hgate, hqos⟩ := h
    refine ⟨hnow, ?_, ?_⟩
    · exact ⟨hgate.routing, hgate.filterRules, hgate.defaults, hgate.natRules, hgate.tracked, hgate.ids,
        hgate.localAddresses⟩
    · simp only [PlaneState.serve, hnow, hqos]
  | wait duration => exact ⟨congrArg (· + duration) h.now, h.gate, h.qos⟩
  | reinstall => cases he

/-- An installation that only one of them is told of. -/
theorem SameService.reinstall (h : SameService s t) (horderly : s.plane.Orderly) :
    SameService (s.serve .reinstall) t := by
  have hsame : (s.serve .reinstall).plane = s.plane.withoutHits :=
    congrArg Prod.fst (install_ofPlane_self horderly s.now)
  refine ⟨h.now, ?_, ?_⟩
  · rw [hsame]
    exact s.plane.sameGate_withoutHits.trans h.gate
  · rw [hsame]
    exact h.qos

theorem SameService.answers_eq (h : SameService s t) (horderly : s.plane.Orderly) (events : List ServiceEvent) :
    s.answers events = t.answers (events.filter fun e => !e.isReinstall) := by
  induction events generalizing s t with
  | nil => rfl
  | cons e rest ih =>
    have hnext := orderly_serve horderly e
    cases he : e.isReinstall with
    | true =>
      rw [List.filter_cons_of_neg (by simp [he])]
      cases e with
      | reinstall => exact ih (h.reinstall horderly) hnext
      | _ => cases he
    | false =>
      rw [List.filter_cons_of_pos (by simp [he]), answers, answers, h.answer?_eq, ih (h.serve he) hnext]

/-- At any time in service a router that is told its own snapshot gives up no packet, and stays as it is but for the
hits of its filter and NAT rules, which are counted anew. Whether it is told or not makes no difference to what becomes
of packets and what leaves the queues. -/
theorem reinstalled {pl : Plane} (h : pl.Reachable) (now : Nat) (events : List ServiceEvent) :
    let s := serveAll ⟨pl, now⟩ events
    s.plane.install s.now (Snapshot.ofPlane s.plane) = (s.plane.withoutHits, []) ∧
      answers ⟨pl, now⟩ events = answers ⟨pl, now⟩ (events.filter fun e => !e.isReinstall) :=
  ⟨install_ofPlane_self (orderly_serveAll h.orderly events) _,
    SameService.answers_eq ⟨rfl, SameGate.refl pl, rfl⟩ h.orderly events⟩

/-! ## A router that was set up in another order than it serves -/

/-- Calls leave before anything else, and come from one address. -/
def callRouter : List Operation :=
  [.firewall (.add (.forAll .forward .accept)), .nat (.addRule NatState.oneSource), .qos (.add (.plain "bulk" 5)),
    .qos (.add { TrafficClass.plain "voice" 9 with protocol := some .udp }), .event (.process (bare .tcp))]

/-- A call comes after other traffic, and the router is told its own snapshot before anything leaves. -/
def callService : List ServiceEvent :=
  [.process (bare .tcp), .process (bare .udp), .wait 7, .reinstall, .dequeue, .reinstall, .dequeue]

/-- The call leaves first, although each installation takes the classes apart, and the hits are gone. -/
theorem reinstalled_callService :
    ∃ pl : Plane, pl.Reachable ∧
      answers ⟨pl, 5⟩ callService =
        [.became (.queued "bulk"), .became (.queued "voice"), .left (some (pl.forward 5 (bare .udp)).1),
          .left (some (pl.forward 5 (bare .tcp)).1)] ∧
      pl.firewall.hits = [(.forward, 1)] ∧ (pl.install 5 (Snapshot.ofPlane pl)).1.firewall.hits = [] := by
  have hreachable : ((start .default [] 0).operateAll callRouter).plane.Reachable := ⟨.default, [], 0, callRouter, rfl⟩
  obtain ⟨-, hanswers⟩ := reinstalled hreachable 5 callService
  obtain ⟨hinstall, -⟩ := reinstalled hreachable 5 []
  refine ⟨_, hreachable, hanswers.trans (by decide), by decide, ?_⟩
  have hself := congrArg Prod.fst hinstall
  exact (congrArg (fun pl : Plane => pl.firewall.hits) hself).trans (by decide)

end PlaneState

end Router
