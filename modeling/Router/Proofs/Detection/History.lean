import Router.Proofs.Assoc
import Router.Detection

/-!
# Histories of a detector

A detector is told events one after another, the passing of time among them (`DetectorState.run`). Of the packets of a
source those that no signature matches are judged by its window: `DetectorState.watch` lists them in order, each with
what was said of it. Main statements: what an inspection says and leaves behind (`inspect_cases`), and what an event
that keeps the thresholds does to the window of a source (`look_step`): a packet is judged by it, it stays, or it goes
because it is over.
-/

namespace Router

/-! ## One packet -/

/-- A packet of a source that no signature matched: when it was inspected, and its header fields. -/
structure Sighting where
  time : Nat
  metadata : Metadata
  deriving DecidableEq, Repr

namespace Detector

variable {d : Detector} {now : Nat} {source : Address} {m : Metadata} {p : Packet}

/-- Whether some signature matches a packet. -/
def recognizes (d : Detector) (p : Packet) : Bool :=
  d.signatures.any fun s => s.isMatch p

/-- A finding of a kind that raised no alert yet raises one; otherwise the window is only counted on. -/
theorem inspect_cases (d : Detector) (now : Nat) (source : Address) (m : Metadata) :
    (∃ f, (d.windowFor now source m).finding? d.config = some f ∧ f.kind ∉ (d.windowFor now source m).alerted ∧
        (d.inspect now source m).1 = ⟨decide (d.config.behaviour = .drop), some (.on f m)⟩ ∧
        (d.inspect now source m).2.windows = d.windows.insert source
          { d.windowFor now source m with alerted := f.kind :: (d.windowFor now source m).alerted }) ∨
      (∃ f, (d.windowFor now source m).finding? d.config = some f ∧ f.kind ∈ (d.windowFor now source m).alerted ∧
        (d.inspect now source m).1 = ⟨decide (d.config.behaviour = .drop), none⟩ ∧
        (d.inspect now source m).2.windows = d.windows.insert source (d.windowFor now source m)) ∨
      (d.windowFor now source m).finding? d.config = none ∧ (d.inspect now source m).1 = .none ∧
        (d.inspect now source m).2.windows = d.windows.insert source (d.windowFor now source m) := by
  unfold inspect
  dsimp only
  cases hf : (d.windowFor now source m).finding? d.config with
  | none => exact .inr (.inr ⟨rfl, rfl, rfl⟩)
  | some f =>
    dsimp only
    by_cases hk : f.kind ∈ (d.windowFor now source m).alerted
    · rw [if_pos hk]
      exact .inr (.inl ⟨f, rfl, hk, rfl, rfl⟩)
    · rw [if_neg hk]
      exact .inl ⟨f, rfl, hk, rfl, rfl⟩

/-- An inspection changes no window but that of the source. -/
theorem inspect_windows (d : Detector) (now : Nat) (source : Address) (m : Metadata) :
    ∃ w, (d.inspect now source m).2.windows = d.windows.insert source w := by
  obtain ⟨f, -, -, -, hw⟩ | ⟨f, -, -, -, hw⟩ | ⟨-, -, hw⟩ := d.inspect_cases now source m
  · exact ⟨_, hw⟩
  · exact ⟨_, hw⟩
  · exact ⟨_, hw⟩

theorem inspect_config (d : Detector) (now : Nat) (source : Address) (m : Metadata) :
    (d.inspect now source m).2.config = d.config := by
  unfold inspect
  dsimp only
  split
  · rfl
  · split <;> rfl

/-- A packet that no signature matches is judged by the window of its source. -/
theorem detect_of_unrecognized (hs : p.metadata.source = some source) (hr : d.recognizes p = false) :
    d.detect now p = d.inspect now source p.metadata := by
  have hnone : d.signatures.find? (fun s => s.isMatch p) = none := by
    rw [List.find?_eq_none]
    simpa [recognizes] using hr
  simp [detect, hs, hnone]

/-- A packet that a signature matches raises an alert for it, and nothing else. -/
theorem detect_of_recognized (now : Nat) (hs : p.metadata.source = some source) (hr : d.recognizes p = true) :
    ∃ g : Signature, d.detect now p =
      (⟨decide (g.response = .drop), some (.on (.signature g.name) p.metadata)⟩,
        d.record (.on (.signature g.name) p.metadata)) := by
  obtain ⟨g, hsome⟩ : ∃ g, d.signatures.find? (fun s => s.isMatch p) = some g := by
    rw [← Option.isSome_iff_exists, List.find?_isSome]
    simpa [recognizes] using hr
  exact ⟨g, by simp [detect, hs, hsome]⟩

/-- A packet without source, or one that a signature matches, changes no window. -/
theorem detect_windows_of_other (h : p.metadata.source = none ∨ d.recognizes p = true) :
    (d.detect now p).2.windows = d.windows ∧ (d.detect now p).2.config = d.config := by
  cases hs : p.metadata.source with
  | none => simp [detect, hs]
  | some a =>
    have hr : d.recognizes p = true := h.resolve_left (by simp [hs])
    obtain ⟨g, hd⟩ := detect_of_recognized now hs hr
    rw [hd]
    exact ⟨rfl, rfl⟩

end Detector

/-! ## Events -/

/-- What a detector can be told, the passing of time included. -/
inductive DetectorEvent
  | inspect (p : Packet)
  | addSignature (s : Signature)
  | removeSignatures (name : String)
  | replaceSignatures (signatures : List Signature)
  | configure (config : DetectorConfig)
  /-- All windows and alerts go. -/
  | reset
  /-- The windows that are over go. -/
  | prune
  /-- Time goes by, in nanoseconds. -/
  | wait (duration : Nat)

/-- Whether an event keeps the thresholds, and the windows that are not over. -/
def DetectorEvent.keepsWatch : DetectorEvent → Bool
  | .configure _ | .reset => false
  | _ => true

/-- A detector at a time. -/
structure DetectorState where
  detector : Detector
  now : Nat

namespace DetectorState

/-- A detector that was told nothing yet. -/
def start (config : DetectorConfig) (now : Nat) : DetectorState :=
  ⟨.new config, now⟩

/-- The state after an event. -/
def step (s : DetectorState) : DetectorEvent → DetectorState
  | .inspect p => { s with detector := (s.detector.detect s.now p).2 }
  | .addSignature g => { s with detector := s.detector.add g }
  | .removeSignatures name => { s with detector := (s.detector.remove? name).getD s.detector }
  | .replaceSignatures signatures => { s with detector := { s.detector with signatures } }
  | .configure config => { s with detector := s.detector.setConfig config }
  | .reset => { s with detector := s.detector.reset }
  | .prune => { s with detector := s.detector.prune s.now }
  | .wait duration => { s with now := s.now + duration }

/-- The state after events. -/
def run (s : DetectorState) (events : List DetectorEvent) : DetectorState :=
  events.foldl step s

/-- What an event lets be seen of a source, and what the detector says of it: a packet that no signature matches. -/
def sighted? (s : DetectorState) (source : Address) : DetectorEvent → Option (Sighting × Detection)
  | .inspect p =>
    if p.metadata.source = some source ∧ s.detector.recognizes p = false then
      some (⟨s.now, p.metadata⟩, (s.detector.detect s.now p).1)
    else none
  | _ => none

/-- What events let be seen of a source, in order, with what the detector said. -/
def watch (s : DetectorState) (source : Address) : List DetectorEvent → List (Sighting × Detection)
  | [] => []
  | e :: rest => (s.sighted? source e).toList ++ (s.step e).watch source rest

variable {s : DetectorState} {source : Address} {e : DetectorEvent}

/-- Time does not go back. -/
theorem now_le_step (s : DetectorState) (e : DetectorEvent) : s.now ≤ (s.step e).now := by
  cases e <;> simp [step]

theorem removed_windows (d : Detector) (name : String) :
    ((d.remove? name).getD d).windows = d.windows ∧ ((d.remove? name).getD d).config = d.config := by
  unfold Detector.remove?
  split <;> exact ⟨rfl, rfl⟩

theorem detect_cases (d : Detector) (now : Nat) (p : Packet) :
    (∃ a, p.metadata.source = some a ∧ d.recognizes p = false ∧ d.detect now p = d.inspect now a p.metadata) ∨
      (p.metadata.source = none ∨ d.recognizes p = true) ∧
        (d.detect now p).2.windows = d.windows ∧ (d.detect now p).2.config = d.config := by
  cases hs : p.metadata.source with
  | none => exact .inr ⟨.inl rfl, Detector.detect_windows_of_other (.inl hs)⟩
  | some a =>
    cases hr : d.recognizes p with
    | false => exact .inl ⟨a, rfl, rfl, Detector.detect_of_unrecognized hs hr⟩
    | true => exact .inr ⟨.inr rfl, Detector.detect_windows_of_other (.inr hr)⟩

theorem config_step (he : e.keepsWatch = true) : (s.step e).detector.config = s.detector.config := by
  cases e with
  | configure _ => cases he
  | inspect p =>
    obtain ⟨a, -, -, hd⟩ | ⟨-, -, hc⟩ := detect_cases s.detector s.now p
    · rw [step, hd]
      exact s.detector.inspect_config s.now a p.metadata
    · exact hc
  | removeSignatures name => exact (removed_windows s.detector name).2
  | _ => rfl

/-- No source has two windows. -/
theorem distinct_step (h : s.detector.windows.Distinct) (e : DetectorEvent) :
    (s.step e).detector.windows.Distinct := by
  cases e with
  | inspect p =>
    obtain ⟨a, -, -, hd⟩ | ⟨-, hw, -⟩ := detect_cases s.detector s.now p
    · obtain ⟨w, hw⟩ := s.detector.inspect_windows s.now a p.metadata
      rw [step, hd, hw]
      exact h.insert a w
    · rw [step, hw]
      exact h
  | removeSignatures name =>
    rw [step, (removed_windows s.detector name).1]
    exact h
  | reset => exact Assoc.distinct_nil
  | prune => exact h.filter _
  | addSignature _ | replaceSignatures _ | configure _ | wait _ => exact h

/-- What an event does to the window of a source. -/
inductive Look (s : DetectorState) (source : Address) (e : DetectorEvent) : Prop
  /-- A packet of the source was judged by it. -/
  | judged (m : Metadata)
      (seen : s.sighted? source e = some (⟨s.now, m⟩, (s.detector.inspect s.now source m).1))
      (window : (s.step e).detector.windows.get? source =
        (s.detector.inspect s.now source m).2.windows.get? source)
  | kept (unseen : s.sighted? source e = none)
      (window : (s.step e).detector.windows.get? source = s.detector.windows.get? source)
  /-- It was over, and went. -/
  | pruned (w : SourceWindow) (unseen : s.sighted? source e = none)
      (before : s.detector.windows.get? source = some w) (ended : w.isExpired s.now s.detector.config.window = true)
      (window : (s.step e).detector.windows.get? source = none)

theorem look_inspect (s : DetectorState) (source : Address) (p : Packet) : s.Look source (.inspect p) := by
  obtain ⟨a, hs, hr, hd⟩ | ⟨hother, hw, -⟩ := detect_cases s.detector s.now p
  · by_cases ha : a = source
    · subst ha
      refine .judged p.metadata ?_ ?_
      · simp [sighted?, hs, hr, hd]
      · rw [step, hd]
    · refine .kept (by simp [sighted?, hs, ha]) ?_
      obtain ⟨w, hw⟩ := s.detector.inspect_windows s.now a p.metadata
      rw [step, hd, hw, Assoc.get?_insert, if_neg (Ne.symm ha)]
  · refine .kept ?_ (by rw [step, hw])
    rcases hother with hs | hr
    · simp [sighted?, hs]
    · simp [sighted?, hr]

/-- Every event that keeps the thresholds does one of these. -/
theorem look_step (h : s.detector.windows.Distinct) (source : Address) (he : e.keepsWatch = true) :
    s.Look source e := by
  cases e with
  | inspect p => exact s.look_inspect source p
  | removeSignatures name => exact .kept rfl (by rw [step, (removed_windows s.detector name).1])
  | configure _ | reset => cases he
  | addSignature _ | replaceSignatures _ | wait _ => exact .kept rfl rfl
  | prune =>
    have hw := Assoc.get?_filter_value h (fun w => !w.isExpired s.now s.detector.config.window) source
    change (s.step .prune).detector.windows.get? source = _ at hw
    cases hold : s.detector.windows.get? source with
    | none => exact .kept rfl (by rw [hw, hold]; rfl)
    | some w =>
      cases hover : w.isExpired s.now s.detector.config.window with
      | false => exact .kept rfl (by rw [hw, hold]; simp [hover])
      | true => exact .pruned w rfl hold hover (by rw [hw, hold]; simp [hover])

end DetectorState

end Router
