import Router.Proofs.Plane.Gate
import Router.Proofs.Plane.Operations
import Router.Proofs.Shaping.Life

/-!
# The queues of a router

Whatever a router is told is, for its queues, one or more of the events that a scheduler can be told, the passing of
time among them (`PlaneState.leads_operate`). So what holds of every scheduler that there can be holds of the queues of
every router that there can be. Main statement: `Plane.Reachable.queues`.
-/

namespace Router

namespace ShapingState

variable {s t u : ShapingState}

/-- Events lead from one state to the other. -/
def Leads (s t : ShapingState) : Prop :=
  ∃ events, s.run events = t

theorem Leads.refl (s : ShapingState) : s.Leads s :=
  ⟨[], rfl⟩

theorem Leads.trans (h : s.Leads t) (h' : t.Leads u) : s.Leads u := by
  obtain ⟨events, rfl⟩ := h
  obtain ⟨events', rfl⟩ := h'
  exact ⟨events ++ events', List.foldl_append⟩

theorem leads_step (s : ShapingState) (e : ShapingEvent) : s.Leads (s.step e) :=
  ⟨[e], rfl⟩

/-- Time goes by. -/
theorem leads_later (s : ShapingState) {now : Nat} (h : s.now ≤ now) : s.Leads { s with now } := by
  have hstep := s.leads_step (.wait (now - s.now))
  rwa [step, Nat.add_sub_cancel' h] at hstep

theorem leads_dequeueBatch (s : ShapingState) (max : Nat) :
    s.Leads { s with scheduler := (s.scheduler.dequeueBatch s.now max).2 } := by
  obtain ⟨n, hn⟩ := s.dequeueBatch_eq_run max
  exact ⟨_, hn⟩

end ShapingState

namespace Plane

open ShapingState

variable {pl : Plane} {now : Nat}

theorem leads_process (pl : Plane) (now : Nat) (p : Packet) :
    Leads ⟨pl.qos, now⟩ ⟨(pl.process now p).plane.qos, now⟩ := by
  rw [qos_process]
  split
  · exact .refl _
  · exact leads_step ⟨pl.qos, now⟩ (.enqueue (pl.forward now p).1)

theorem leads_ingestArrivals {w : Watch} (hclock : Monotone w.clock) (turn : Nat) (pl : Plane) (c : Capture)
    (pending : List Arrival) :
    Leads ⟨pl.qos, w.clock turn⟩
      ⟨(ingestArrivals w turn pl c pending).plane.qos, w.clock (turn + pending.length)⟩ := by
  induction pending generalizing turn pl c with
  | nil => exact .refl _
  | cons arrival pending ih =>
    have hnext : ∀ qos, Leads ⟨qos, w.clock turn⟩ ⟨qos, w.clock (turn + 1)⟩ := fun qos =>
      leads_later ⟨qos, w.clock turn⟩ (hclock (Nat.le_succ turn))
    have hstop : Leads ⟨pl.qos, w.clock turn⟩ ⟨pl.qos, w.clock (turn + (arrival :: pending).length)⟩ :=
      leads_later ⟨pl.qos, w.clock turn⟩ (hclock (Nat.le_add_right _ _))
    rw [List.length_cons, Nat.add_comm pending.length, ← Nat.add_assoc] at hstop ⊢
    rw [ingestArrivals]
    split
    · exact hstop
    · exact hstop
    · split
      · rename_i p _
        have hreceived :=
          leads_process { pl with metrics := pl.metrics.received p.ingress p.length } (w.clock turn) p
        exact (hreceived.trans (hnext _)).trans (ih _ _ _)
      · exact hstop
      · split
        · exact (hnext pl.qos).trans (ih _ (pl.count .rxErrors) c)
        · exact hstop

theorem leads_ingest {w : Watch} (hclock : Monotone w.clock) (hnow : now ≤ w.clock 0) (pl : Plane) (c : Capture) :
    Leads ⟨pl.qos, now⟩ ⟨(pl.ingest w c).plane.qos, w.clock c.pending.length⟩ := by
  have hread := leads_ingestArrivals hclock 0 pl c c.pending
  rw [Nat.zero_add] at hread
  exact (leads_later ⟨pl.qos, now⟩ hnow).trans hread

theorem leads_egressOnce (pl : Plane) (now batch : Nat) (sends : Nat → Frame → Bool) :
    Leads ⟨pl.qos, now⟩ ⟨(pl.egressOnce now batch sends).plane.qos, now⟩ :=
  leads_dequeueBatch ⟨pl.qos, now⟩ batch

theorem leads_egressRounds (pl : Plane) (now batch : Nat) (sends : Nat → Frame → Bool) (rounds : Nat) :
    Leads ⟨pl.qos, now⟩ ⟨(egressRounds now batch sends rounds pl).plane.qos, now⟩ := by
  induction rounds generalizing pl with
  | zero => exact .refl _
  | succ rounds ih =>
    have hfirst := pl.leads_egressOnce now batch sends
    rw [egressRounds]
    dsimp only
    split
    · exact hfirst
    · exact hfirst.trans (ih _)

theorem leads_egress (pl : Plane) (now batch : Nat) (sends : Nat → Frame → Bool) (done : Bool) :
    Leads ⟨pl.qos, now⟩ ⟨(pl.egress now batch sends done).plane.qos, now⟩ := by
  unfold egress
  split
  · exact .refl _
  · exact pl.leads_egressRounds now batch sends _

theorem maintain_qos (pl : Plane) (now flowTimeout : Nat) (done : Bool) :
    (pl.maintain now flowTimeout done).qos = pl.qos := by
  unfold maintain
  split <;> rfl

end Plane

namespace PlaneState

open ShapingState

/-- The queues of a router at a time. -/
def queues (s : PlaneState) : ShapingState :=
  ⟨s.plane.qos, s.now⟩

theorem leads_operate (s : PlaneState) (o : Operation) : s.queues.Leads (s.operate o).queues := by
  cases o with
  | routing e | firewall e => exact .refl _
  | nat e => exact s.queues.leads_later (NatState.now_le_step ⟨s.plane.nat, s.now⟩ e)
  | qos e => exact s.queues.leads_step e
  | ids e => exact s.queues.leads_later (DetectorState.now_le_step ⟨s.plane.ids, s.now⟩ e)
  | event e =>
    cases e with
    | process p => exact s.plane.leads_process s.now p
    | egress batch sends => exact s.plane.leads_egressOnce s.now batch sends
    | wait duration => exact s.queues.leads_step (.wait duration)
  | ingest c waits signal =>
    exact Plane.leads_ingest (Watch.monotone_readings s.now waits) (Watch.le_readings s.now waits) s.plane c
  | egress batch sends done => exact s.plane.leads_egress s.now batch sends done
  | maintain flowTimeout done =>
    have hqos := s.plane.maintain_qos s.now flowTimeout done
    rw [queues, queues, operate, hqos]
    exact .refl _
  | install snapshot => exact s.queues.leads_step (.replace snapshot.qosClasses)

theorem leads_operateAll (s : PlaneState) (operations : List Operation) :
    s.queues.Leads (s.operateAll operations).queues := by
  induction operations generalizing s with
  | nil => exact .refl _
  | cons o rest ih => exact (s.leads_operate o).trans (ih _)

end PlaneState

/-- The queues of a router are those of a scheduler that was told events one after another. -/
theorem Plane.Reachable.queues {pl : Plane} (h : pl.Reachable) : pl.qos.Reachable := by
  obtain ⟨config, localAddresses, born, operations, rfl⟩ := h
  obtain ⟨events, hevents⟩ := (PlaneState.start config localAddresses born).leads_operateAll operations
  exact ⟨born, events, congrArg ShapingState.scheduler hevents⟩

end Router
