import Router.Proofs.Detection.Independence

/-!
# The alerts that are kept

A ring of a capacity keeps the last alerts, and to cut it down twice is to cut it down once
(`Detector.lastAlerts_append`). As long as a ring is within its capacity, what any event but a reset makes of it are the
last of the alerts that were kept and the one that the event raised (`DetectorState.alerts_step`). So the alerts kept
are a suffix of those raised since the last reset, however the capacity changes (`DetectorState.Kept.run`), and as long
as it does not change they are all of them that it has room for (`DetectorState.alerts_run`). Main statement:
`DetectorState.alerts_kept_run`.
-/

namespace Router

/-! ## The last alerts -/

namespace Detector

variable {alerts : List Alert} {capacity : UInt64}

theorem length_lastAlerts (alerts : List Alert) (capacity : UInt64) :
    (lastAlerts alerts capacity).length = min capacity.toNat alerts.length := by
  rw [lastAlerts, List.length_drop]
  omega

theorem lastAlerts_suffix (alerts : List Alert) (capacity : UInt64) : lastAlerts alerts capacity <:+ alerts :=
  List.drop_suffix _ _

theorem lastAlerts_of_length_le (h : alerts.length ≤ capacity.toNat) : lastAlerts alerts capacity = alerts := by
  rw [lastAlerts, Nat.sub_eq_zero_of_le h, List.drop_zero]

/-- What was cut off does not count later. -/
theorem lastAlerts_append (alerts raised : List Alert) (capacity : UInt64) :
    lastAlerts (lastAlerts alerts capacity ++ raised) capacity = lastAlerts (alerts ++ raised) capacity := by
  obtain ⟨gone, hgone⟩ := lastAlerts_suffix alerts capacity
  have hleft : lastAlerts (lastAlerts alerts capacity ++ raised) capacity <:+ alerts ++ raised := by
    refine (lastAlerts_suffix _ capacity).trans ⟨gone, ?_⟩
    rw [← List.append_assoc, hgone]
  -- Both are suffixes of the same alerts, as long as each other.
  refine List.suffix_of_suffix_length_le hleft (lastAlerts_suffix _ capacity) ?_ |>.eq_of_length ?_
  all_goals
    simp only [length_lastAlerts, List.length_append]
    omega

end Detector

/-! ## Events -/

/-- Whether an event makes the ring empty. -/
def DetectorEvent.isReset : DetectorEvent → Bool
  | .reset => true
  | _ => false

/-- Whether an event neither makes the ring empty nor gives it another capacity. -/
def DetectorEvent.keepsRing (capacity : UInt64) : DetectorEvent → Bool
  | .reset => false
  | .configure config => config.maxAlerts = capacity
  | _ => true

namespace DetectorState

open Detector

variable {s : DetectorState} {e : DetectorEvent} {events : List DetectorEvent} {past : List Alert}

/-- The capacity of the ring. -/
def capacity (s : DetectorState) : UInt64 :=
  s.detector.config.maxAlerts

/-- The alerts that events raise, in order. -/
def raised (s : DetectorState) (events : List DetectorEvent) : List Alert :=
  (s.log events).filterMap (·.said.alert)

/-- The alerts raised since the last reset, behind those of a past. -/
def raisedSinceReset (s : DetectorState) (past : List Alert) : List DetectorEvent → List Alert
  | [] => past
  | .reset :: rest => (s.step .reset).raisedSinceReset [] rest
  | e :: rest => (s.step e).raisedSinceReset (past ++ s.raised [e]) rest

theorem raised_cons (s : DetectorState) (e : DetectorEvent) (rest : List DetectorEvent) :
    s.raised (e :: rest) = s.raised [e] ++ (s.step e).raised rest := by
  simp [raised, log]

theorem raised_inspect (s : DetectorState) (p : Packet) :
    s.raised [.inspect p] = (s.detector.detect s.now p).1.alert.toList := by
  cases h : (s.detector.detect s.now p).1.alert <;> simp [raised, log, inspection?, h]

theorem raisedSinceReset_cons (he : e.isReset = false) (past : List Alert) (rest : List DetectorEvent) :
    s.raisedSinceReset past (e :: rest) = (s.step e).raisedSinceReset (past ++ s.raised [e]) rest := by
  cases e with
  | reset => cases he
  | _ => rfl

theorem config_detect (d : Detector) (now : Nat) (p : Packet) : (d.detect now p).2.config = d.config := by
  obtain ⟨a, -, -, hd⟩ | ⟨-, -, hc⟩ := detect_cases d now p
  · rw [hd]
    exact d.inspect_config now a p.metadata
  · exact hc

/-! ## One event -/

/-- An event that raises nothing and changes neither the ring nor its capacity. -/
theorem alerts_step_of_same (h : s.detector.alerts.length ≤ s.capacity.toNat)
    (halerts : (s.step e).detector.alerts = s.detector.alerts) (hcapacity : (s.step e).capacity = s.capacity)
    (hnone : s.raised [e] = []) :
    (s.step e).detector.alerts = lastAlerts (s.detector.alerts ++ s.raised [e]) (s.step e).capacity := by
  rw [halerts, hcapacity, hnone, List.append_nil, lastAlerts_of_length_le h]

theorem alerts_step_inspect (h : s.detector.alerts.length ≤ s.capacity.toNat) (p : Packet) :
    (s.step (.inspect p)).detector.alerts = lastAlerts (s.detector.alerts ++ s.raised [.inspect p]) s.capacity := by
  rw [raised_inspect, step, (s.detector.detect_others s.now p).2]
  cases (s.detector.detect s.now p).1.alert with
  | none =>
    rw [Option.toList_none, List.append_nil, lastAlerts_of_length_le h]
    rfl
  | some alert => rfl

/-- What is kept after an event is what there is room for of what was kept and what is raised. -/
theorem alerts_step (h : s.detector.alerts.length ≤ s.capacity.toNat) (he : e.isReset = false) :
    (s.step e).detector.alerts = lastAlerts (s.detector.alerts ++ s.raised [e]) (s.step e).capacity := by
  cases e with
  | reset => cases he
  | inspect p =>
    have hcapacity : (s.step (.inspect p)).capacity = s.capacity :=
      congrArg DetectorConfig.maxAlerts (config_detect s.detector s.now p)
    rw [hcapacity, alerts_step_inspect h]
  | configure config =>
    have hnone : s.raised [.configure config] = [] := rfl
    rw [hnone, List.append_nil]
    rfl
  | removeSignatures name =>
    refine alerts_step_of_same h ?_ ?_ rfl
    · rw [step, removed_eq]
    · rw [capacity, step, removed_eq]
      rfl
  | addSignature g => exact alerts_step_of_same h rfl rfl rfl
  | replaceSignatures signatures => exact alerts_step_of_same h rfl rfl rfl
  | prune => exact alerts_step_of_same h rfl rfl rfl
  | wait duration => exact alerts_step_of_same h rfl rfl rfl

/-- No more alerts are kept than there is room for, and they are the last of the past. -/
structure Kept (s : DetectorState) (past : List Alert) : Prop where
  length_le : s.detector.alerts.length ≤ s.capacity.toNat
  suffix : s.detector.alerts <:+ past

theorem kept_start (config : DetectorConfig) (now : Nat) : (start config now).Kept [] :=
  ⟨Nat.zero_le _, List.suffix_rfl⟩

theorem kept_reset (s : DetectorState) : (s.step .reset).Kept [] :=
  ⟨Nat.zero_le _, List.suffix_rfl⟩

theorem Kept.step (h : s.Kept past) (he : e.isReset = false) : (s.step e).Kept (past ++ s.raised [e]) := by
  have halerts := alerts_step h.length_le he
  obtain ⟨gone, hgone⟩ := h.suffix
  constructor
  · rw [halerts, length_lastAlerts]
    exact Nat.min_le_left _ _
  · rw [halerts, ← hgone, List.append_assoc]
    exact (lastAlerts_suffix _ _).trans (List.suffix_append gone _)

/-! ## Every history -/

theorem Kept.run (h : s.Kept past) (events : List DetectorEvent) :
    (s.run events).Kept (s.raisedSinceReset past events) := by
  induction events generalizing s past with
  | nil => exact h
  | cons e rest ih =>
    cases he : e.isReset with
    | false =>
      rw [raisedSinceReset_cons he]
      exact ih (h.step he)
    | true =>
      cases e with
      | reset => exact ih s.kept_reset
      | _ => cases he

theorem keepsRing_step (he : e.keepsRing s.capacity = true) : (s.step e).capacity = s.capacity ∧ e.isReset = false := by
  cases e with
  | reset => cases he
  | configure config => exact ⟨of_decide_eq_true he, rfl⟩
  | inspect p => exact ⟨congrArg DetectorConfig.maxAlerts (config_detect s.detector s.now p), rfl⟩
  | removeSignatures name => exact ⟨congrArg DetectorConfig.maxAlerts (removed_windows s.detector name).2, rfl⟩
  | addSignature _ | replaceSignatures _ | prune | wait _ => exact ⟨rfl, rfl⟩

/-- With one capacity and no reset what is kept is what there is room for of all that was kept and raised. -/
theorem alerts_run (h : s.detector.alerts.length ≤ s.capacity.toNat)
    (hevents : ∀ e ∈ events, e.keepsRing s.capacity = true) :
    (s.run events).detector.alerts = lastAlerts (s.detector.alerts ++ s.raised events) s.capacity := by
  induction events generalizing s with
  | nil =>
    have hnone : s.raised [] = [] := rfl
    rw [hnone, List.append_nil, lastAlerts_of_length_le h]
    rfl
  | cons e rest ih =>
    obtain ⟨he, hrest⟩ := List.forall_mem_cons.1 hevents
    obtain ⟨hcapacity, hreset⟩ := keepsRing_step he
    have halerts := alerts_step h hreset
    rw [hcapacity] at halerts
    have hlength : (s.step e).detector.alerts.length ≤ (s.step e).capacity.toNat := by
      rw [halerts, length_lastAlerts, hcapacity]
      exact Nat.min_le_left _ _
    calc
      ((s.step e).run rest).detector.alerts =
          lastAlerts ((s.step e).detector.alerts ++ (s.step e).raised rest) s.capacity := by
        rw [ih hlength (hcapacity.symm ▸ hrest), hcapacity]
      _ = lastAlerts (s.detector.alerts ++ s.raised [e] ++ (s.step e).raised rest) s.capacity := by
        rw [halerts, lastAlerts_append]
      _ = lastAlerts (s.detector.alerts ++ s.raised (e :: rest)) s.capacity := by
        rw [raised_cons s e rest, List.append_assoc]

/-- After every history the alerts kept are no more than there is room for, and they are the last of those raised since
the last reset. From a state in which none is kept, with one capacity and no reset, they are as many as were raised or
as there is room for, whichever is less. -/
theorem alerts_kept_run (config : DetectorConfig) (now : Nat) (events : List DetectorEvent) :
    let s := (start config now).run events
    s.detector.alerts.length ≤ s.detector.config.maxAlerts.toNat ∧
      s.detector.alerts <:+ (start config now).raisedSinceReset [] events ∧
      ∀ later, (∀ e ∈ later, e.keepsRing s.detector.config.maxAlerts = true) → s.detector.alerts = [] →
        (s.run later).detector.alerts.length = min s.detector.config.maxAlerts.toNat (s.raised later).length := by
  intro s
  have hkept : s.Kept _ := (kept_start config now).run events
  refine ⟨hkept.length_le, hkept.suffix, fun later hlater hempty => ?_⟩
  have halerts := alerts_run hkept.length_le hlater
  rw [hempty, List.nil_append] at halerts
  rw [halerts, length_lastAlerts]
  rfl

/-- The scan, a ring cut down to a capacity, and a reset. -/
def curtailed (capacity : UInt64) : List DetectorEvent :=
  scan ++ [.configure { strict with maxAlerts := capacity }, .reset]

/-- A second scan raises two alerts. Of these a ring for one keeps one, and a ring for none keeps none. -/
theorem alerts_kept_curtailed :
    (∀ e ∈ scan, e.keepsRing 1 = true) ∧ (∀ e ∈ scan, e.keepsRing 0 = true) ∧
      (((start strict 0).run (curtailed 1)).raised scan).length = 2 ∧
      (((start strict 0).run (curtailed 1)).run scan).detector.alerts.length = 1 ∧
      (((start strict 0).run (curtailed 0)).run scan).detector.alerts.length = 0 := by
  have hkeeps : ∀ e ∈ scan, e.keepsRing 1 = true := by decide
  have hkeeps' : ∀ e ∈ scan, e.keepsRing 0 = true := by decide
  have hraised : (((start strict 0).run (curtailed 1)).raised scan).length = 2 := by decide
  obtain ⟨-, -, hone⟩ := alerts_kept_run strict 0 (curtailed 1)
  obtain ⟨-, -, hnone⟩ := alerts_kept_run strict 0 (curtailed 0)
  refine ⟨hkeeps, hkeeps', hraised, ?_, ?_⟩
  · rw [hone scan hkeeps rfl, hraised]
    rfl
  · rw [hnone scan hkeeps' rfl]
    exact Nat.zero_min _

end DetectorState

end Router
