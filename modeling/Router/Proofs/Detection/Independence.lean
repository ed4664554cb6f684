import Router.Proofs.Detection.Windows

/-!
# What a detection depends on

Of the windows that a detector keeps only those count that are not over (`Detector.live`): a packet is judged by the
rules and by the live window of its source (`Detector.detect_congr`). An event without a sighting of a source does no
more to its live window than the time that goes by (`DetectorState.live_of_unseen`). So two states with the same rules
and the same live windows stay alike when both are told an event (`DetectorState.Alike.step`), and when one of them is
told an event that takes no time and brings no sighting (`DetectorState.Alike.skip`). Main statements: what is said of
the packets of a source that no signature matches is the same when no other packet is inspected
(`DetectorState.log_concerning`), and neither what is said of a packet nor what alerts are kept depends on the pruning
of windows (`DetectorState.log_of_same_but_prunes`).
-/

namespace Router

/-! ## The windows that count -/

namespace SourceWindow

/-- A window that is over stays over. -/
theorem isExpired_of_le {w : SourceWindow} {now later length : Nat} (h : w.isExpired now length = true)
    (hle : now ≤ later) : w.isExpired later length = true := by
  have hover : length < now - w.opened := of_decide_eq_true h
  exact decide_eq_true (by omega)

end SourceWindow

namespace Detector

variable {d d' : Detector} {now later : Nat} {source : Address} {p : Packet}

/-- The window of a source that counts at a time: the one that is kept, unless it is over. -/
def live (d : Detector) (now : Nat) (source : Address) : Option SourceWindow :=
  (d.windows.get? source).filter fun w => !w.isExpired now d.config.window

/-- A packet counts in the live window of its source, or opens one. -/
theorem windowFor_eq (d : Detector) (now : Nat) (source : Address) (m : Metadata) :
    d.windowFor now source m = ((d.live now source).getD (.openAt now)).count m := by
  unfold windowFor live
  cases d.windows.get? source with
  | none => rfl
  | some w => cases hover : w.isExpired now d.config.window <;> simp [Option.filter_some, hover]

/-- As time goes by the live windows that are over leave. -/
theorem live_of_le (d : Detector) (source : Address) (hle : now ≤ later) :
    d.live later source = (d.live now source).filter fun w => !w.isExpired later d.config.window := by
  unfold live
  cases d.windows.get? source with
  | none => rfl
  | some w =>
    cases hover : w.isExpired now d.config.window with
    | false => simp [Option.filter_some, hover]
    | true => simp [Option.filter_some, hover, SourceWindow.isExpired_of_le hover hle]

/-- A packet is judged by the thresholds and the live window of its source, and the window after it is made of them. -/
theorem inspect_congr (hconfig : d.config = d'.config) (hlive : d.live now source = d'.live now source)
    (m : Metadata) :
    (d.inspect now source m).1 = (d'.inspect now source m).1 ∧
      (d.inspect now source m).2.windows.get? source = (d'.inspect now source m).2.windows.get? source := by
  have hwindow : d.windowFor now source m = d'.windowFor now source m := by
    rw [windowFor_eq, windowFor_eq, hlive]
  unfold inspect
  rw [hwindow, hconfig]
  dsimp only
  split
  · simp [Assoc.get?_insert]
  · split
    · simp [Assoc.get?_insert]
    · simp [Assoc.get?_insert, record]

/-- What is said of a packet depends on the rules and on the live window of its source. -/
theorem detect_congr (hconfig : d.config = d'.config) (hsignatures : d.signatures = d'.signatures)
    (hlive : ∀ source, p.metadata.source = some source → d.live now source = d'.live now source) :
    (d.detect now p).1 = (d'.detect now p).1 := by
  unfold detect
  cases hs : p.metadata.source with
  | none => rfl
  | some source =>
    dsimp only
    rw [hsignatures]
    split
    · rfl
    · exact (inspect_congr hconfig (hlive source hs) p.metadata).1

/-- Besides windows an inspection changes nothing but the alerts, and these by the one that it raises. -/
theorem inspect_others (d : Detector) (now : Nat) (source : Address) (m : Metadata) :
    (d.inspect now source m).2.signatures = d.signatures ∧
      (d.inspect now source m).2.alerts = ((d.inspect now source m).1.alert.elim d d.record).alerts := by
  unfold inspect
  dsimp only
  split
  · exact ⟨rfl, rfl⟩
  · split <;> exact ⟨rfl, rfl⟩

theorem detect_others (d : Detector) (now : Nat) (p : Packet) :
    (d.detect now p).2.signatures = d.signatures ∧
      (d.detect now p).2.alerts = ((d.detect now p).1.alert.elim d d.record).alerts := by
  unfold detect
  split
  · exact ⟨rfl, rfl⟩
  · split
    · exact ⟨rfl, rfl⟩
    · exact d.inspect_others now _ _

end Detector

/-! ## Inspections -/

/-- Whether an event keeps thresholds and signatures, and the windows that are not over. -/
def DetectorEvent.keepsRules : DetectorEvent → Bool
  | .inspect _ | .prune | .wait _ => true
  | _ => false

theorem DetectorEvent.keepsWatch_of_keepsRules {e : DetectorEvent} (h : e.keepsRules = true) :
    e.keepsWatch = true := by
  cases e <;> first | rfl | cases h

/-- Whether an event concerns what the window of a source says of its packets: it is no packet, or one of the source
that no signature matches. -/
def DetectorEvent.concerns (signatures : List Signature) (source : Address) : DetectorEvent → Bool
  | .inspect p => p.metadata.source = some source && !signatures.any fun g => g.isMatch p
  | _ => true

/-- Whether an event drops the windows that are over. -/
def DetectorEvent.isPrune : DetectorEvent → Bool
  | .prune => true
  | _ => false

/-- A packet that was inspected: when, which one, and what was said of it. -/
structure Inspection where
  time : Nat
  packet : Packet
  said : Detection
  deriving DecidableEq, Repr

namespace DetectorState

/-- The inspection that an event is, if it is one. -/
def inspection? (s : DetectorState) : DetectorEvent → Option Inspection
  | .inspect p => some ⟨s.now, p, (s.detector.detect s.now p).1⟩
  | _ => none

/-- The inspections among events, in order. -/
def log (s : DetectorState) : List DetectorEvent → List Inspection
  | [] => []
  | e :: rest => (s.inspection? e).toList ++ (s.step e).log rest

/-- A state that comes of one in which nothing was told yet. -/
def Reachable (s : DetectorState) : Prop :=
  ∃ config now events, (start config now).run events = s

/-- The window of a source that counts. -/
def live (s : DetectorState) (source : Address) : Option SourceWindow :=
  s.detector.live s.now source

variable {s t : DetectorState} {source : Address} {e : DetectorEvent} {events events' : List DetectorEvent}
  {signatures : List Signature}

theorem distinct_run (h : s.detector.windows.Distinct) (events : List DetectorEvent) :
    (s.run events).detector.windows.Distinct := by
  induction events generalizing s with
  | nil => exact h
  | cons e rest ih => exact ih (distinct_step h e)

theorem Reachable.distinct (h : s.Reachable) : s.detector.windows.Distinct := by
  obtain ⟨config, now, events, rfl⟩ := h
  exact distinct_run Assoc.distinct_nil events

theorem sighted?_eq_some {x : Sighting × Detection} (h : s.sighted? source e = some x) :
    ∃ p, e = .inspect p ∧ p.metadata.source = some source ∧ s.detector.recognizes p = false ∧
      x = (⟨s.now, p.metadata⟩, (s.detector.detect s.now p).1) := by
  cases e with
  | inspect p =>
    dsimp only [sighted?] at h
    split at h
    · rename_i hp
      exact ⟨p, rfl, hp.1, hp.2, (Option.some.inj h).symm⟩
    · cases h
  | _ => cases h

/-! ## Live windows under events -/

/-- Without a sighting of the source nothing happens to its live window, but that it may be over afterwards. -/
theorem live_of_unseen (hdistinct : s.detector.windows.Distinct) (he : e.keepsWatch = true)
    (hunseen : s.sighted? source e = none) :
    (s.step e).live source =
      (s.live source).filter fun w => !w.isExpired (s.step e).now s.detector.config.window := by
  have hlater := s.detector.live_of_le source (now_le_step s e)
  rw [live, live, ← hlater, Detector.live, Detector.live, config_step he]
  cases look_step hdistinct source he with
  | judged m seen window => cases seen.symm.trans hunseen
  | kept unseen window => rw [window]
  | pruned w unseen before ended window =>
    have hover := SourceWindow.isExpired_of_le ended (now_le_step s e)
    simp [window, before, Option.filter_some, hover]

theorem signatures_of_keepsRules (he : e.keepsRules = true) :
    (s.step e).detector.signatures = s.detector.signatures := by
  cases e with
  | inspect p => exact (s.detector.detect_others s.now p).1
  | prune | wait _ => rfl
  | addSignature _ | removeSignatures _ | replaceSignatures _ | configure _ | reset => cases he

theorem removed_eq (d : Detector) (name : String) :
    (d.remove? name).getD d = { d with signatures := d.signatures.filter (·.name ≠ name) } := by
  unfold Detector.remove?
  split
  · rfl
  · rename_i hnone
    have hother : ∀ g ∈ d.signatures, ¬ g.name = name := by simpa using hnone
    have hkept : d.signatures.filter (·.name ≠ name) = d.signatures := by simpa using hother
    rw [hkept]
    rfl

/-! ## Two states -/

/-- Two states that say the same of the packets of some sources: it is the same time, they have the same thresholds and
signatures, and the live windows of these sources are the same. -/
structure Alike (sources : Address → Prop) (s t : DetectorState) : Prop where
  now : s.now = t.now
  config : s.detector.config = t.detector.config
  signatures : s.detector.signatures = t.detector.signatures
  live : ∀ source, sources source → s.live source = t.live source
  distinct_left : s.detector.windows.Distinct
  distinct_right : t.detector.windows.Distinct

theorem Reachable.alike (h : s.Reachable) (sources : Address → Prop) : Alike sources s s :=
  ⟨rfl, rfl, rfl, fun _ _ => rfl, h.distinct, h.distinct⟩

section Alike

variable {sources : Address → Prop} {p : Packet}

theorem Alike.detector_live (h : Alike sources s t) (hsource : sources source) :
    s.detector.live t.now source = t.detector.live t.now source := by
  have hlive := h.live source hsource
  rwa [DetectorState.live, DetectorState.live, h.now] at hlive

theorem Alike.said_eq (h : Alike sources s t) (hsources : ∀ source, p.metadata.source = some source → sources source) :
    (s.detector.detect s.now p).1 = (t.detector.detect t.now p).1 := by
  rw [h.now]
  exact Detector.detect_congr h.config h.signatures fun source hsource => h.detector_live (hsources source hsource)

theorem Alike.inspection?_eq (h : Alike sources s t)
    (hsources : ∀ source, p.metadata.source = some source → sources source) :
    s.inspection? (.inspect p) = t.inspection? (.inspect p) := by
  rw [inspection?, inspection?, h.said_eq hsources, h.now]

theorem Alike.sighted?_eq (h : Alike sources s t) (hsource : sources source) (e : DetectorEvent) :
    s.sighted? source e = t.sighted? source e := by
  cases e with
  | inspect p =>
    have hrecognizes : s.detector.recognizes p = t.detector.recognizes p := by
      rw [Detector.recognizes, Detector.recognizes, h.signatures]
    dsimp only [sighted?]
    rw [hrecognizes]
    by_cases hp : p.metadata.source = some source ∧ t.detector.recognizes p = false
    · have hsaid := h.said_eq fun a ha => Option.some.inj (hp.1.symm.trans ha) ▸ hsource
      rw [if_pos hp, if_pos hp, hsaid, h.now]
    · rw [if_neg hp, if_neg hp]
  | _ => rfl

/-- An event does the same to live windows that are the same. -/
theorem Alike.live_step (h : Alike sources s t) (he : e.keepsWatch = true) (hnow : (s.step e).now = (t.step e).now)
    (hsource : sources source) : (s.step e).live source = (t.step e).live source := by
  have hsighted := h.sighted?_eq hsource e
  cases hseen : s.sighted? source e with
  | none =>
    have hunseen : t.sighted? source e = none := hsighted.symm.trans hseen
    rw [live_of_unseen h.distinct_left he hseen, live_of_unseen h.distinct_right he hunseen, hnow, h.config,
      h.live source hsource]
  | some x =>
    obtain ⟨p, rfl, hp, hr, -⟩ := sighted?_eq_some hseen
    obtain ⟨_, hinspect, -, hr', -⟩ := sighted?_eq_some (hsighted.symm.trans hseen)
    obtain rfl := DetectorEvent.inspect.inj hinspect
    have hwindow := (Detector.inspect_congr h.config (h.detector_live hsource) p.metadata).2
    simp only [DetectorState.live, Detector.live, step, Detector.detect_of_unrecognized hp hr,
      Detector.detect_of_unrecognized hp hr', Detector.inspect_config]
    rw [h.now, hwindow, h.config]

theorem Alike.signatures_step (h : Alike sources s t) (e : DetectorEvent) :
    (s.step e).detector.signatures = (t.step e).detector.signatures := by
  have hsignatures := h.signatures
  cases e with
  | inspect p => simpa [DetectorState.step, (Detector.detect_others _ _ p).1] using hsignatures
  | addSignature g => simp [DetectorState.step, Detector.add, hsignatures]
  | removeSignatures name => simp [DetectorState.step, removed_eq, hsignatures]
  | replaceSignatures _ => rfl
  | configure _ | reset | prune | wait _ => exact hsignatures

/-- Two states that are alike are so after the same event. -/
theorem Alike.step (h : Alike sources s t) (he : e.keepsWatch = true) : Alike sources (s.step e) (t.step e) := by
  have hnow : (s.step e).now = (t.step e).now := by cases e <;> simp [DetectorState.step, h.now]
  have hconfig : (s.step e).detector.config = (t.step e).detector.config := by
    rw [config_step he, config_step he, h.config]
  exact ⟨hnow, hconfig, h.signatures_step e, fun source hsource => h.live_step he hnow hsource,
    distinct_step h.distinct_left e, distinct_step h.distinct_right e⟩

/-- They are so, too, when only one of them is told an event without a sighting of the sources that takes no time. -/
theorem Alike.skip (h : Alike sources s t) (he : e.keepsRules = true) (hnow : (s.step e).now = s.now)
    (hunseen : ∀ source, sources source → s.sighted? source e = none) : Alike sources (s.step e) t where
  now := hnow.trans h.now
  config := (config_step (DetectorEvent.keepsWatch_of_keepsRules he)).trans h.config
  signatures := (signatures_of_keepsRules he).trans h.signatures
  live source hsource := by
    have hwatch := DetectorEvent.keepsWatch_of_keepsRules he
    have hkept : (s.step e).live source = s.live source := by
      rw [live_of_unseen h.distinct_left hwatch (hunseen source hsource), hnow]
      exact (s.detector.live_of_le source (Nat.le_refl s.now)).symm
    exact hkept.trans (h.live source hsource)
  distinct_left := distinct_step h.distinct_left e
  distinct_right := h.distinct_right

end Alike

/-! ## Packets that do not concern a source -/

/-- What does not concern a source is a packet, and no sighting of it. -/
theorem unseen_of_not_concerns (hsignatures : s.detector.signatures = signatures)
    (h : e.concerns signatures source = false) : ∃ p, e = .inspect p ∧ s.sighted? source (.inspect p) = none := by
  subst hsignatures
  cases e with
  | inspect p =>
    refine ⟨p, rfl, if_neg fun hp => ?_⟩
    have hmatches : (s.detector.signatures.any fun g => g.isMatch p) = false := hp.2
    simp [DetectorEvent.concerns, hp.1, hmatches] at h
  | _ => cases h

theorem source_of_concerns {p : Packet} (h : (DetectorEvent.inspect p).concerns signatures source = true) :
    p.metadata.source = some source :=
  of_decide_eq_true (Bool.and_eq_true_iff.1 h).1

/-- A state that is alike for a source, and is told no packet but those that concern it, logs the same of these. -/
theorem log_filter_concerns (h : Alike (· = source) s t) (hsignatures : s.detector.signatures = signatures)
    (hevents : ∀ e ∈ events, e.keepsRules = true) :
    t.log (events.filter fun e => e.concerns signatures source) =
      (s.log events).filter fun x => (DetectorEvent.inspect x.packet).concerns signatures source := by
  induction events generalizing s t with
  | nil => rfl
  | cons e rest ih =>
    obtain ⟨he, hrest⟩ := List.forall_mem_cons.1 hevents
    have hkept : (s.step e).detector.signatures = signatures := (signatures_of_keepsRules he).trans hsignatures
    rw [log, List.filter_append]
    cases hc : e.concerns signatures source with
    | false =>
      -- Only the first state is told the packet, and stays alike.
      obtain ⟨p, rfl, hunseen⟩ := unseen_of_not_concerns hsignatures hc
      have hskip : Alike (· = source) (s.step (.inspect p)) t := h.skip he rfl fun _ hsource => hsource ▸ hunseen
      rw [← ih hskip hkept hrest]
      simp [inspection?, hc]
    | true =>
      have hboth := h.step (DetectorEvent.keepsWatch_of_keepsRules he)
      rw [← ih hboth hkept hrest, List.filter_cons_of_pos hc, log]
      congr 1
      cases e with
      | inspect p =>
        have hsource := source_of_concerns hc
        rw [h.inspection?_eq fun a ha => Option.some.inj (ha.symm.trans hsource)]
        simp [inspection?, hc]
      | _ => rfl

/-- When a detector keeps its thresholds and signatures, what it says of the packets of a source that no signature
matches is what it would say if it were told of these only, whatever other packets it is told of. -/
theorem log_concerning (h : s.Reachable) (source : Address) (events : List DetectorEvent)
    (hevents : ∀ e ∈ events, e.keepsRules = true) :
    s.log (events.filter fun e => e.concerns s.detector.signatures source) =
      (s.log events).filter fun x => (DetectorEvent.inspect x.packet).concerns s.detector.signatures source :=
  log_filter_concerns (h.alike _) rfl hevents

/-- A signature of the packets to one port. -/
def telnet : Signature :=
  ⟨"telnet", some .tcp, none, none, none, some (.single 23), none, .alert⟩

/-- A detector that knows that signature. -/
def guarded : DetectorState :=
  (start strict 0).run [.addSignature telnet]

/-- Two packets of a scanner among one that a signature matches, one of another source, and one without source. -/
def bustle : List DetectorEvent :=
  [.inspect (knock 22), .inspect (knock 23), .inspect (.new [] "wan0" ⟨some (.v4 0xC6336408), none, .tcp, 1, 2, 0⟩),
    .prune, .wait (9 * Duration.second), .inspect (.new [] "wan0" ⟨none, none, .tcp, 1, 2, 0⟩), .inspect (knock 24)]

/-- The second of them is dropped for its port, with the others and without them. -/
theorem log_bustle :
    guarded.Reachable ∧ (∀ e ∈ bustle, e.keepsRules = true) ∧ (guarded.log bustle).length = 5 ∧
      (guarded.log (bustle.filter fun e => e.concerns guarded.detector.signatures (.v4 0xC6336407))).map
        (fun x => (x.time, x.said)) =
      [(0, .none), (9 * Duration.second, ⟨true, some (.on (.portScan 2) (knock 24).metadata)⟩)] := by
  have hreachable : guarded.Reachable := ⟨strict, 0, [.addSignature telnet], rfl⟩
  have hevents : ∀ e ∈ bustle, e.keepsRules = true := by decide
  refine ⟨hreachable, hevents, rfl, ?_⟩
  rw [log_concerning hreachable _ bustle hevents]
  decide

/-! ## Windows that are pruned -/

theorem Alike.alerts_step (h : Alike (fun _ => True) s t) (halerts : s.detector.alerts = t.detector.alerts)
    (he : e.keepsWatch = true) : (s.step e).detector.alerts = (t.step e).detector.alerts := by
  cases e with
  | inspect p =>
    have hsaid := h.said_eq fun a (_ : p.metadata.source = some a) => trivial
    simp only [DetectorState.step, (Detector.detect_others _ _ p).2, hsaid]
    cases (t.detector.detect t.now p).1.alert with
    | none => exact halerts
    | some alert => simp [Detector.record, halerts, h.config]
  | removeSignatures name => simp [DetectorState.step, removed_eq, halerts]
  | configure _ | reset => cases he
  | addSignature _ | replaceSignatures _ | prune | wait _ => exact halerts

/-- A state that is alike for all sources, and is told all events but those that prune, logs the same and keeps the same
alerts. -/
theorem log_filter_prunes (h : Alike (fun _ => True) s t) (halerts : s.detector.alerts = t.detector.alerts)
    (hevents : ∀ e ∈ events, e.keepsWatch = true) :
    s.log events = t.log (events.filter fun e => !e.isPrune) ∧
      (s.run events).detector.alerts = (t.run (events.filter fun e => !e.isPrune)).detector.alerts := by
  induction events generalizing s t with
  | nil => exact ⟨rfl, halerts⟩
  | cons e rest ih =>
    obtain ⟨he, hrest⟩ := List.forall_mem_cons.1 hevents
    cases e with
    | prune => exact ih (h.skip rfl rfl fun _ _ => rfl) halerts hrest
    | inspect p =>
      obtain ⟨hlog, hrun⟩ := ih (h.step he) (h.alerts_step halerts he) hrest
      rw [List.filter_cons_of_pos rfl, log, log, hlog, h.inspection?_eq fun _ _ => trivial]
      exact ⟨rfl, hrun⟩
    | addSignature _ | removeSignatures _ | replaceSignatures _ | configure _ | reset | wait _ =>
      exact ih (h.step he) (h.alerts_step halerts he) hrest

/-- Pruning windows, at whatever points and however often, changes neither what is said of any packet nor what alerts
are kept, as long as the thresholds are. -/
theorem log_of_same_but_prunes (h : s.Reachable) (events events' : List DetectorEvent)
    (hevents : ∀ e ∈ events, e.keepsWatch = true) (hevents' : ∀ e ∈ events', e.keepsWatch = true)
    (hsame : (events.filter fun e => !e.isPrune) = events'.filter fun e => !e.isPrune) :
    s.log events = s.log events' ∧ (s.run events).detector.alerts = (s.run events').detector.alerts := by
  obtain ⟨hlog, halerts⟩ := log_filter_prunes (h.alike _) rfl hevents
  obtain ⟨hlog', halerts'⟩ := log_filter_prunes (h.alike _) rfl hevents'
  rw [hlog, halerts, hlog', halerts', hsame]
  exact ⟨rfl, rfl⟩

/-- The scan with windows pruned before it, inside a window, and when a window is over. -/
def upkept : List DetectorEvent :=
  [.prune, .inspect (knock 22), .wait (9 * Duration.second), .prune, .inspect (knock 23), .inspect (knock 22), .prune,
    .inspect (knock 24), .wait (2 * Duration.second), .prune, .prune, .inspect (knock 25)]

/-- Three packets are dropped, and two alerts are kept, whether windows are pruned or not. -/
theorem log_upkept :
    (start strict 0).Reachable ∧ (∀ e ∈ upkept, e.keepsWatch = true) ∧ (∀ e ∈ scan, e.keepsWatch = true) ∧
      (upkept.filter fun e => !e.isPrune) = (scan.filter fun e => !e.isPrune) ∧
      ((start strict 0).log upkept).map (fun x => x.said.drop) = [false, true, true, true, false] ∧
      ((start strict 0).run upkept).detector.alerts =
        [.on (.portScan 2) (knock 23).metadata, .on (.rateSpike 3 (10 * Duration.second)) (knock 22).metadata] := by
  have hreachable : (start strict 0).Reachable := ⟨strict, 0, [], rfl⟩
  have hupkept : ∀ e ∈ upkept, e.keepsWatch = true := by decide
  have hscan : ∀ e ∈ scan, e.keepsWatch = true := by decide
  have hsame : (upkept.filter fun e => !e.isPrune) = (scan.filter fun e => !e.isPrune) := rfl
  obtain ⟨hlog, halerts⟩ := log_of_same_but_prunes hreachable upkept scan hupkept hscan hsame
  rw [hlog, halerts]
  exact ⟨hreachable, hupkept, hscan, hsame, by decide, by decide⟩

end DetectorState

end Router
