import Router.Proofs.Detection.Bursts
import Router.Proofs.Detection.Independence

/-!
# Alerts of one kind are a window apart

In a window of a history a kind of findings raises at most one alert, and a window is over before the next one opens.
So when `raised` alerts of a kind were raised since a time, the open window began at least that many windows after it,
one less if the kind already decided in the open window (`Sighting.Spaced`), and one more sighting keeps this
(`Sighting.Spaced.append`). The sightings of a source are among the packets that were inspected of it, and all alerts
of its window were raised on them (`DetectorState.times_watch_sublist`, `DetectorState.countP_log`). Main statement:
between the first and the last packet of a source there is a whole window for each alert of a kind but one
(`DetectorState.alerts_spaced_run`).
-/

namespace Router

/-! ## One more sighting -/

/-- Whether an alert of a kind was raised. -/
def Detection.raises (kind : FindingKind) (d : Detection) : Bool :=
  d.alert.any fun a => a.finding.kind = kind

theorem Detection.raises_eq_true_iff {kind : FindingKind} {d : Detection} :
    d.raises kind = true ↔ ∃ a, d.alert = some a ∧ a.finding.kind = kind := by
  unfold raises
  cases d.alert <;> simp

namespace Sighting

variable {c : DetectorConfig} {window : List Sighting} {x : Sighting} {kind : FindingKind} {start raised : Nat}
  {d : Detection}

/-- Whether a kind of findings decided on some sighting of a window. -/
def Decided (c : DetectorConfig) (kind : FindingKind) (window : List Sighting) : Prop :=
  ∃ front f, front <+: window ∧ decides? c front = some f ∧ f.kind = kind

theorem Decided.append (h : Decided c kind window) (x : Sighting) : Decided c kind (window ++ [x]) := by
  obtain ⟨front, f, hfront, hf⟩ := h
  exact ⟨front, f, hfront.trans (List.prefix_append window [x]), hf⟩

/-- A window begins so late that since `start` there was a whole window for each alert that was raised, but for the one
that was raised in it. -/
def Spaced (c : DetectorConfig) (kind : FindingKind) (start raised : Nat) (window : List Sighting) : Prop :=
  ∃ opening, window.head? = some opening ∧ start + raised * c.window ≤ opening.time + c.window ∧
    (¬ Decided c kind window → start + raised * c.window ≤ opening.time)

/-- An alert of a kind is raised where the kind decides, and where it did not decide before in the window. -/
theorem Judges.decided (h : Judges c (window ++ [x]) x d) (hraises : d.raises kind = true) :
    Decided c kind (window ++ [x]) ∧ ¬ Decided c kind window := by
  obtain ⟨a, ha, rfl⟩ := Detection.raises_eq_true_iff.1 hraises
  obtain ⟨f, ⟨hf, hfirst⟩, rfl⟩ := (h.alert a).1 ha
  refine ⟨⟨_, f, List.prefix_rfl, hf, rfl⟩, ?_⟩
  rintro ⟨front, g, hfront, hg, hkind⟩
  refine hfirst front g (hfront.trans (List.prefix_append window [x])) ?_ hg hkind
  rintro rfl
  have hlength := hfront.length_le
  rw [List.length_append, List.length_singleton] at hlength
  omega

/-- The sighting that opens a window begins it, an alert raised on it or not. -/
theorem spaced_singleton (hjudges : Judges c [x] x d) (hspace : start + raised * c.window ≤ x.time) :
    Spaced c kind start (raised + if d.raises kind then 1 else 0) [x] := by
  refine ⟨x, rfl, ?_⟩
  cases hraises : d.raises kind with
  | false => simpa using ⟨by omega, fun _ => hspace⟩
  | true =>
    have hopens : Judges c ([] ++ [x]) x d := hjudges
    have hdecided : Decided c kind [x] := (hopens.decided hraises).1
    refine ⟨?_, fun h => absurd hdecided h⟩
    simp only [if_true, Nat.succ_mul]
    omega

/-- Where a window was over, there was a whole one after the alerts before. -/
theorem Spaced.lt_of_over (h : Spaced c kind start raised window) (hover : joined c.window window x.time = []) :
    start + raised * c.window < x.time := by
  obtain ⟨opening, hopening, hspace, -⟩ := h
  by_contra hlate
  have hwithin : ¬ c.window < x.time - opening.time := by omega
  have hnil : window = [] := by simpa [joined, hopening, hwithin] using hover
  rw [hnil] at hopening
  cases hopening

theorem Spaced.append (h : Spaced c kind start raised window)
    (hjudges : Judges c (joined c.window window x.time ++ [x]) x d) :
    Spaced c kind start (raised + if d.raises kind then 1 else 0) (joined c.window window x.time ++ [x]) := by
  obtain hover | hopen := joined_cases c.window window x.time
  · rw [hover] at hjudges ⊢
    exact spaced_singleton hjudges (h.lt_of_over hover).le
  · rw [hopen] at hjudges ⊢
    obtain ⟨opening, hopening, hspace, hspace'⟩ := h
    refine ⟨opening, by simp [hopening], ?_⟩
    cases hraises : d.raises kind with
    | false => exact ⟨hspace, fun hnot => hspace' fun hdecided => hnot (hdecided.append x)⟩
    | true =>
      obtain ⟨hdecided, hfirst⟩ := hjudges.decided hraises
      refine ⟨?_, fun hnot => absurd hdecided hnot⟩
      have hbefore := hspace' hfirst
      simp only [if_true, Nat.succ_mul]
      omega

/-- The open window of a history in which each sighting was judged by its window begins so late. -/
theorem spaced_openWindow (kind : FindingKind) {said : List (Sighting × Detection)} {first : Sighting × Detection}
    (hjudged : ∀ before x after, said = before ++ x :: after →
      Judges c (openWindow c.window (before.map Prod.fst ++ [x.1])) x.1 x.2)
    (hfirst : said.head? = some first) :
    Spaced c kind first.1.time (said.countP fun x => x.2.raises kind) (openWindow c.window (said.map Prod.fst)) := by
  induction said using List.reverseRecOn with
  | nil => cases hfirst
  | append_singleton said x ih =>
    have hlast := hjudged said x [] rfl
    have hbefore : ∀ before y after, said = before ++ y :: after →
        Judges c (openWindow c.window (before.map Prod.fst ++ [y.1])) y.1 y.2 := by
      rintro before y after rfl
      exact hjudged before y (after ++ [x]) (by simp)
    rw [List.countP_append, List.countP_singleton, List.map_append, List.map_singleton, openWindow_append_singleton]
    rw [openWindow_append_singleton] at hlast
    cases said with
    | nil =>
      obtain rfl : x = first := Option.some.inj hfirst
      exact spaced_singleton hlast (by simp)
    | cons y said => exact (ih hbefore hfirst).append hlast

/-- So there is a whole window for each alert but one between the first sighting and any time that no sighting is
after. -/
theorem mul_window_le (kind : FindingKind) {said : List (Sighting × Detection)} {first : Sighting × Detection}
    {last : Nat}
    (hjudged : ∀ before x after, said = before ++ x :: after →
      Judges c (openWindow c.window (before.map Prod.fst ++ [x.1])) x.1 x.2)
    (hfirst : said.head? = some first) (hlast : ∀ x ∈ said, x.1.time ≤ last) :
    first.1.time + ((said.countP fun x => x.2.raises kind) - 1) * c.window ≤ last := by
  obtain ⟨opening, hopening, hspace, -⟩ := spaced_openWindow kind hjudged hfirst
  have hmem : opening ∈ said.map Prod.fst :=
    (openWindow_suffix c.window _).subset (List.mem_of_head? hopening)
  obtain ⟨x, hx, rfl⟩ := List.mem_map.1 hmem
  have hopened := hlast x hx
  generalize (said.countP fun x => x.2.raises kind) = raised at hspace ⊢
  cases raised with
  | zero => simpa using hlast first (List.mem_of_head? hfirst)
  | succ raised =>
    rw [Nat.succ_mul] at hspace
    rw [Nat.add_sub_cancel]
    omega

end Sighting

/-! ## Inspections of a source -/

/-- Whether a packet of a source was inspected. -/
def Inspection.isOf (source : Address) (x : Inspection) : Bool :=
  x.packet.metadata.source = some source

namespace DetectorState

open Sighting

variable {s : DetectorState} {source : Address} {events : List DetectorEvent} {kind : FindingKind} {x : Inspection}

theorem countP_inspection? (hkind : kind ≠ .signature) (s : DetectorState) (source : Address) (e : DetectorEvent) :
    ((s.inspection? e).toList.countP fun x => x.isOf source && x.said.raises kind) =
      (s.sighted? source e).toList.countP fun x => x.2.raises kind := by
  cases e with
  | inspect p =>
    by_cases hsource : p.metadata.source = some source
    · cases hr : s.detector.recognizes p with
      | false => simp [inspection?, sighted?, Inspection.isOf, hsource, hr]
      | true =>
        obtain ⟨g, hdetect⟩ := Detector.detect_of_recognized s.now hsource hr
        simp [inspection?, sighted?, Inspection.isOf, hsource, hr, hdetect, Detection.raises, Alert.on, Finding.kind,
          hkind.symm]
    · simp [inspection?, sighted?, Inspection.isOf, hsource]
  | _ => rfl

/-- The alerts that windows raise on packets of a source are those raised on its sightings. -/
theorem countP_log (hkind : kind ≠ .signature) (s : DetectorState) (source : Address) (events : List DetectorEvent) :
    ((s.log events).countP fun x => x.isOf source && x.said.raises kind) =
      (s.watch source events).countP fun x => x.2.raises kind := by
  induction events generalizing s with
  | nil => rfl
  | cons e rest ih =>
    rw [log, watch, List.countP_append, List.countP_append, countP_inspection? hkind, ih]

/-- The sightings of a source are at times when packets of it were inspected. -/
theorem times_watch_sublist (s : DetectorState) (source : Address) (events : List DetectorEvent) :
    ((s.watch source events).map fun x => x.1.time).Sublist
      (((s.log events).filter (·.isOf source)).map Inspection.time) := by
  induction events generalizing s with
  | nil => exact List.Sublist.slnil
  | cons e rest ih =>
    rw [log, watch, List.filter_append, List.map_append, List.map_append]
    refine List.Sublist.append ?_ (ih _)
    cases hseen : s.sighted? source e with
    | none => exact List.nil_sublist _
    | some x =>
      obtain ⟨p, rfl, hsource, -, rfl⟩ := sighted?_eq_some hseen
      simp [inspection?, Inspection.isOf, hsource]

theorem time_of_inspection? {e : DetectorEvent} (h : x ∈ (s.inspection? e).toList) : x.time = s.now := by
  cases e with
  | inspect p =>
    obtain rfl := List.mem_singleton.1 h
    rfl
  | _ => cases h

theorem now_le_of_mem_log (h : x ∈ s.log events) : s.now ≤ x.time := by
  induction events generalizing s with
  | nil => cases h
  | cons e rest ih =>
    obtain h | h := List.mem_append.1 h
    · exact (time_of_inspection? h).ge
    · exact (now_le_step s e).trans (ih h)

/-- Inspections are logged in the order of time. -/
theorem pairwise_log (s : DetectorState) (events : List DetectorEvent) :
    (s.log events).Pairwise fun x y => x.time ≤ y.time := by
  induction events generalizing s with
  | nil => exact List.Pairwise.nil
  | cons e rest ih =>
    rw [log, List.pairwise_append]
    refine ⟨by cases e <;> simp [inspection?], ih _, fun x hx y hy => ?_⟩
    rw [time_of_inspection? hx]
    exact (now_le_step s e).trans (now_le_of_mem_log hy)

theorem bounds_of_pairwise {inspections : List Inspection} {first last : Inspection}
    (h : inspections.Pairwise fun x y => x.time ≤ y.time) (hfirst : inspections.head? = some first)
    (hlast : inspections.getLast? = some last) : ∀ x ∈ inspections, first.time ≤ x.time ∧ x.time ≤ last.time := by
  refine fun x hx => ⟨?_, ?_⟩
  · obtain ⟨rest, rfl⟩ := List.head?_eq_some_iff.1 hfirst
    rcases List.mem_cons.1 hx with rfl | hx
    · exact Nat.le_refl _
    · exact (List.pairwise_cons.1 h).1 x hx
  · obtain ⟨front, rfl⟩ := List.getLast?_eq_some_iff.1 hlast
    rcases List.mem_append.1 hx with hx | hx
    · exact (List.pairwise_append.1 h).2.2 x hx last (List.mem_singleton_self last)
    · rw [List.mem_singleton.1 hx]

/-- For each alert of a kind that the window of a source raised, but for one, there is a whole window between the first
packet of the source that was inspected and the last. -/
theorem alerts_spaced_run (config : DetectorConfig) (now : Nat) (events : List DetectorEvent) (source : Address)
    (kind : FindingKind) (first last : Inspection) (hevents : ∀ e ∈ events, e.keepsWatch = true)
    (hkind : kind ≠ .signature)
    (hfirst : (((start config now).log events).filter (·.isOf source)).head? = some first)
    (hlast : (((start config now).log events).filter (·.isOf source)).getLast? = some last) :
    ((((start config now).log events).countP fun x => x.isOf source && x.said.raises kind) - 1) * config.window ≤
      last.time - first.time := by
  rw [countP_log hkind]
  have hbounds := bounds_of_pairwise ((pairwise_log (start config now) events).filter (·.isOf source)) hfirst hlast
  have htimes : ∀ x ∈ (start config now).watch source events, first.time ≤ x.1.time ∧ x.1.time ≤ last.time := by
    intro x hx
    have hmem := (times_watch_sublist (start config now) source events).subset (List.mem_map_of_mem hx)
    obtain ⟨y, hy, htime⟩ := List.mem_map.1 hmem
    rw [← htime]
    exact hbounds y hy
  cases hhead : ((start config now).watch source events).head? with
  | none => simp [List.head?_eq_none_iff.1 hhead]
  | some sighting =>
    have hspace := mul_window_le kind (fun _ _ _ => judged_start hevents) hhead fun x hx => (htimes x hx).2
    have hstart := (htimes sighting (List.mem_of_head? hhead)).1
    omega

/-- Two ports of a scanner are found too many, and two again a nanosecond after that window is over. -/
def rescan : List DetectorEvent :=
  [.inspect (knock 22), .inspect (knock 23), .inspect (knock 24), .wait (10 * Duration.second + 1), .prune,
    .inspect (knock 22), .inspect (knock 23)]

/-- The two alerts of one kind took a window and a nanosecond. -/
theorem alerts_spaced_rescan :
    (∀ e ∈ rescan, e.keepsWatch = true) ∧ ∃ first last,
      (((start strict 0).log rescan).filter (·.isOf (.v4 0xC6336407))).head? = some first ∧
        (((start strict 0).log rescan).filter (·.isOf (.v4 0xC6336407))).getLast? = some last ∧
        (((start strict 0).log rescan).countP fun x => x.isOf (.v4 0xC6336407) && x.said.raises .portScan) = 2 ∧
        last.time - first.time = strict.window + 1 ∧ (2 - 1) * strict.window ≤ last.time - first.time := by
  have hevents : ∀ e ∈ rescan, e.keepsWatch = true := by decide
  obtain ⟨first, last, hfirst, hlast, hspan⟩ : ∃ first last,
      (((start strict 0).log rescan).filter (·.isOf (.v4 0xC6336407))).head? = some first ∧
        (((start strict 0).log rescan).filter (·.isOf (.v4 0xC6336407))).getLast? = some last ∧
        last.time - first.time = strict.window + 1 :=
    ⟨_, _, rfl, rfl, by decide⟩
  have hcount : (((start strict 0).log rescan).countP fun x => x.isOf (.v4 0xC6336407) && x.said.raises .portScan) =
      2 := by decide
  have hspaced :=
    alerts_spaced_run strict 0 rescan (.v4 0xC6336407) .portScan first last hevents (by decide) hfirst hlast
  rw [hcount] at hspaced
  exact ⟨hevents, first, last, hfirst, hlast, hcount, hspan, hspaced⟩

end DetectorState

end Router
