import Router.Proofs.Detection.Windows

/-!
# Bursts

The rate threshold is compared with the sightings of the open window only, and a window lasts from its first sighting.
A burst of as many packets as the threshold is stopped at its last packet unless a window opens inside it
(`Sighting.suffix_openWindow_iff`). Inside a burst that is no longer than a window at most one opens
(`Sighting.openWindow_of_within`), and the one before it began ahead of the burst, so that twice the packets, less two,
cannot pass (`DetectorState.dropped_of_within`). Main statements: `DetectorState.burst_dropped_iff`, and a burst of as
many packets as the threshold that passes (`DetectorState.drizzle_passes`).
-/

namespace Router

namespace Sighting

variable {length : Nat} {seen burst : List Sighting} {c : DetectorConfig}

/-! ## Windows that open inside a burst -/

/-- Some sighting of a burst other than the first opens a window. -/
def Split (length : Nat) (seen burst : List Sighting) : Prop :=
  ∃ front x back, burst = front ++ x :: back ∧ front ≠ [] ∧ openWindow length (seen ++ front ++ [x]) = [x]

theorem joined_cases (length : Nat) (window : List Sighting) (time : Nat) :
    joined length window time = [] ∨ joined length window time = window := by
  unfold joined
  split
  · exact .inl rfl
  · exact .inr rfl

theorem joined_of_within {window : List Sighting} {time : Nat} (h : ∀ x ∈ window, time - x.time ≤ length) :
    joined length window time = window := by
  cases window with
  | nil => rfl
  | cons first rest =>
    have hfirst := h first List.mem_cons_self
    rw [joined, List.head?_cons, Option.any_some, decide_eq_false (Nat.not_lt.2 hfirst), if_neg Bool.false_ne_true]

theorem openWindow_ne_nil (h : seen ≠ []) : openWindow length seen ≠ [] := by
  obtain ⟨front, x, rfl⟩ := List.eq_nil_or_concat' seen |>.resolve_left h
  rw [openWindow_append_singleton]
  exact List.concat_ne_nil _ _

theorem not_split_singleton (length : Nat) (seen : List Sighting) (x : Sighting) : ¬ Split length seen [x] := by
  rintro ⟨front, y, back, hburst, hfront, -⟩
  cases front with
  | nil => exact hfront rfl
  | cons z front => cases front <;> cases hburst

theorem split_append_singleton (h : burst ≠ []) (x : Sighting) :
    Split length seen (burst ++ [x]) ↔
      Split length seen burst ∨ joined length (openWindow length (seen ++ burst)) x.time = [] := by
  have hopens : openWindow length (seen ++ burst ++ [x]) = [x] ↔
      joined length (openWindow length (seen ++ burst)) x.time = [] := by
    rw [openWindow_append_singleton, List.append_left_eq_self]
  rw [← hopens]
  constructor
  · rintro ⟨front, y, back, hburst, hfront, hy⟩
    obtain rfl | ⟨back, z, rfl⟩ := List.eq_nil_or_concat' back
    · obtain ⟨rfl, hxy⟩ := List.append_inj' hburst rfl
      cases hxy
      exact .inr hy
    · rw [← List.cons_append, ← List.append_assoc] at hburst
      obtain ⟨rfl, -⟩ := List.append_inj' hburst rfl
      exact .inl ⟨front, y, back, rfl, hfront, hy⟩
  · rintro (⟨front, y, back, rfl, hfront, hy⟩ | hx)
    · exact ⟨front, y, back ++ [x], by simp, hfront, hy⟩
    · exact ⟨burst, x, [], rfl, h, hx⟩

/-- A burst is in the open window as a whole unless a window opened inside it. -/
theorem suffix_openWindow_iff (length : Nat) (seen : List Sighting) (h : burst ≠ []) :
    burst <:+ openWindow length (seen ++ burst) ↔ ¬ Split length seen burst := by
  induction burst using List.reverseRecOn with
  | nil => exact absurd rfl h
  | append_singleton burst x ih =>
    rw [← List.append_assoc, openWindow_append_singleton, List.suffix_append_inj_of_length_eq rfl]
    by_cases hburst : burst = []
    · subst hburst
      simp [not_split_singleton]
    · rw [split_append_singleton hburst, not_or, ← ih hburst]
      obtain hover | hopen := joined_cases length (openWindow length (seen ++ burst)) x.time
      · simp [hover, hburst]
      · simp [hopen, openWindow_ne_nil, hburst]

/-- In a burst no longer than a window at most one window opens, and only when the one before it began ahead of the
burst. -/
theorem openWindow_of_within (seen : List Sighting) (h : ∀ x ∈ burst, ∀ y ∈ burst, y.time - x.time ≤ length) :
    openWindow length (seen ++ burst) = openWindow length seen ++ burst ∨
      ∃ front back, burst = front ++ back ∧ back ≠ [] ∧ (openWindow length seen = [] → front = []) ∧
        openWindow length (seen ++ front) = openWindow length seen ++ front ∧
        openWindow length (seen ++ burst) = back := by
  induction burst using List.reverseRecOn with
  | nil => exact .inl (by simp)
  | append_singleton burst x ih =>
    have hburst : ∀ y ∈ burst, ∀ z ∈ burst, z.time - y.time ≤ length := fun y hy z hz =>
      h y (List.mem_append_left [x] hy) z (List.mem_append_left [x] hz)
    have hspan : ∀ y ∈ burst, x.time - y.time ≤ length := fun y hy =>
      h y (List.mem_append_left [x] hy) x (List.mem_append_right burst (List.mem_singleton_self x))
    rw [← List.append_assoc, openWindow_append_singleton]
    obtain hwhole | ⟨front, back, rfl, hback, hfirst, hfront, hopen⟩ := ih hburst
    · obtain hover | hjoined := joined_cases length (openWindow length (seen ++ burst)) x.time
      · refine .inr ⟨burst, [x], rfl, List.cons_ne_nil _ _, fun hnew => ?_, hwhole, by rw [hover]; rfl⟩
        rw [hwhole, hnew, List.nil_append] at hover
        exact (joined_of_within hspan).symm.trans hover
      · exact .inl (by rw [hjoined, hwhole, List.append_assoc])
    · -- The open window began inside the burst, so the next sighting of the burst still joins it.
      have hjoined := joined_of_within fun y hy => hspan y (List.mem_append_right front hy)
      exact .inr ⟨front, back ++ [x], by simp, by simp, hfirst, hfront, by rw [hopen, hjoined]⟩

/-! ## The conditions in a burst -/

/-- The sightings of a window go to too many ports or too many addresses. -/
def FansOut (c : DetectorConfig) (window : List Sighting) : Prop :=
  c.portScanThreshold ≠ 0 ∧ c.portScanThreshold.toNat ≤ (destinationPorts window).toFinset.card ∨
    c.sweepThreshold ≠ 0 ∧ c.sweepThreshold.toNat ≤ (destinations window).toFinset.card

theorem decides?_isSome_iff (window : List Sighting) :
    (decides? c window).isSome = true ↔
      c.rateThreshold ≠ 0 ∧ c.rateThreshold.toNat ≤ window.length ∨ FansOut c window := by
  simp [decides?, conditions, holds_eq_true_iff, FansOut, List.find?_isSome]

/-- The open window holds as many sightings as a burst exactly if none opened inside the burst. -/
theorem length_le_length_openWindow_iff (length : Nat) (seen : List Sighting) (h : burst ≠ []) :
    burst.length ≤ (openWindow length (seen ++ burst)).length ↔ ¬ Split length seen burst := by
  rw [← suffix_openWindow_iff length seen h]
  exact ⟨List.suffix_of_suffix_length_le (List.suffix_append seen burst) (openWindow_suffix length _),
    List.IsSuffix.length_le⟩

end Sighting

namespace DetectorState

open Sighting

variable {config : DetectorConfig} {now : Nat} {events : List DetectorEvent} {source : Address}
  {before burst after : List (Sighting × Detection)} {x : Sighting × Detection}

/-! ## Bursts of a source -/

/-- Where packets are dropped, one is if its window holds too many of them, or they fan out. -/
theorem dropped_iff (hevents : ∀ e ∈ events, e.keepsWatch = true) (hdrop : config.behaviour = .drop)
    (hrate : config.rateThreshold ≠ 0) (hwatch : (start config now).watch source events = before ++ x :: after) :
    x.2.drop = true ↔
      config.rateThreshold.toNat ≤ (openWindow config.window (before.map Prod.fst ++ [x.1])).length ∨
        FansOut config (openWindow config.window (before.map Prod.fst ++ [x.1])) := by
  rw [(judged_start hevents hwatch).drop, and_iff_left hdrop, decides?_isSome_iff, and_iff_right hrate]

/-- When the open window has as many sightings as the threshold, the last was dropped. -/
theorem dropped_of_length_le (hevents : ∀ e ∈ events, e.keepsWatch = true) (hdrop : config.behaviour = .drop)
    (hrate : config.rateThreshold ≠ 0) (hwatch : (start config now).watch source events = before ++ burst ++ after)
    (hne : burst ≠ [])
    (hopen : config.rateThreshold.toNat ≤ (openWindow config.window ((before ++ burst).map Prod.fst)).length) :
    ∃ y ∈ burst, y.2.drop = true := by
  obtain ⟨burst, y, rfl⟩ := List.eq_nil_or_concat' burst |>.resolve_left hne
  have hlast : (start config now).watch source events = (before ++ burst) ++ y :: after := by simpa using hwatch
  refine ⟨y, by simp, (dropped_iff hevents hdrop hrate hlast).2 (.inl ?_)⟩
  simpa using hopen

/-- Of twice as many packets as the threshold, less two, within the length of a window some are dropped. -/
theorem dropped_of_within (hevents : ∀ e ∈ events, e.keepsWatch = true) (hdrop : config.behaviour = .drop)
    (hrate : config.rateThreshold ≠ 0) (hwatch : (start config now).watch source events = before ++ burst ++ after)
    (hwithin : ∀ y ∈ burst, ∀ z ∈ burst, z.1.time - y.1.time ≤ config.window) (hne : burst ≠ [])
    (hlength : 2 * config.rateThreshold.toNat ≤ burst.length + 2) : ∃ y ∈ burst, y.2.drop = true := by
  have hpos := List.length_pos_of_ne_nil hne
  have hwithin' : ∀ y ∈ burst.map Prod.fst, ∀ z ∈ burst.map Prod.fst, z.time - y.time ≤ config.window := by
    simpa using hwithin
  obtain hwhole | ⟨front, back, hsplit, hback, hfirst, hfront, hopen⟩ :=
    openWindow_of_within (before.map Prod.fst) hwithin'
  · refine dropped_of_length_le hevents hdrop hrate hwatch hne ?_
    have hmapped : (burst.map Prod.fst).length = burst.length := List.length_map _
    rw [List.map_append, hwhole, List.length_append]
    omega
  · obtain ⟨front, back, rfl, rfl, rfl⟩ := List.map_eq_append_iff.1 hsplit
    rw [List.length_append] at hlength hpos
    by_cases hmany : config.rateThreshold.toNat ≤ back.length
    · have hwatch : (start config now).watch source events = (before ++ front) ++ back ++ after := by
        simpa using hwatch
      have hreached : config.rateThreshold.toNat ≤
          (openWindow config.window ((before ++ front ++ back).map Prod.fst)).length := by
        rwa [List.append_assoc, List.map_append, hopen, List.length_map]
      have hnonempty : back ≠ [] := fun h => hback (by rw [h, List.map_nil])
      obtain ⟨y, hy, hdropped⟩ := dropped_of_length_le hevents hdrop hrate hwatch hnonempty hreached
      exact ⟨y, List.mem_append_right front hy, hdropped⟩
    · -- The other part is one short of the threshold at most, and the window that it joined held a packet already.
      have hwatch : (start config now).watch source events = before ++ front ++ (back ++ after) := by
        simpa using hwatch
      have hnonempty : front ≠ [] := by
        rintro rfl
        rw [List.length_nil] at hlength hpos
        omega
      have hheld := List.length_pos_of_ne_nil (mt hfirst (by simpa using hnonempty))
      have hreached : config.rateThreshold.toNat ≤
          (openWindow config.window ((before ++ front).map Prod.fst)).length := by
        have hmapped : (front.map Prod.fst).length = front.length := List.length_map _
        rw [List.map_append, hfront, List.length_append]
        omega
      obtain ⟨y, hy, hdropped⟩ := dropped_of_length_le hevents hdrop hrate hwatch hnonempty hreached
      exact ⟨y, List.mem_append_left back hy, hdropped⟩

/-- Of as many packets of a source as the threshold the last is dropped unless a window opens among them, or they fan
out. Of twice as many, less two, some are dropped if they come within the length of a window. -/
theorem burst_dropped_iff (config : DetectorConfig) (now : Nat) (events : List DetectorEvent) (source : Address)
    (hevents : ∀ e ∈ events, e.keepsWatch = true) (hdrop : config.behaviour = .drop)
    (hrate : config.rateThreshold ≠ 0) :
    (∀ before burst x after, (start config now).watch source events = before ++ (burst ++ [x]) ++ after →
      (burst ++ [x]).length = config.rateThreshold.toNat →
      (x.2.drop = true ↔
        ¬ Split config.window (before.map Prod.fst) ((burst ++ [x]).map Prod.fst) ∨
          FansOut config (openWindow config.window ((before ++ (burst ++ [x])).map Prod.fst)))) ∧
    ∀ before burst after, (start config now).watch source events = before ++ burst ++ after →
      (∀ y ∈ burst, ∀ z ∈ burst, z.1.time - y.1.time ≤ config.window) → burst ≠ [] →
      2 * config.rateThreshold.toNat ≤ burst.length + 2 → ∃ y ∈ burst, y.2.drop = true := by
  refine ⟨fun before burst x after hwatch hlength => ?_, fun before burst after =>
    dropped_of_within hevents hdrop hrate⟩
  have hlast : (start config now).watch source events = (before ++ burst) ++ x :: after := by simpa using hwatch
  have hne : (burst ++ [x]).map Prod.fst ≠ [] := by simp
  rw [← length_le_length_openWindow_iff config.window _ hne, List.length_map, hlength]
  simpa using dropped_iff hevents hdrop hrate hlast

/-- Three packets within ten seconds are too many, whatever their ports. -/
def steady : DetectorConfig :=
  { strict with portScanThreshold := 0 }

/-- A packet opens a window, a second joins it, and three more come one second after another when it is over. -/
def drizzle : List DetectorEvent :=
  [.inspect (knock 22), .wait (9 * Duration.second), .inspect (knock 22), .wait (2 * Duration.second),
    .inspect (knock 22), .wait Duration.second, .inspect (knock 22), .wait Duration.second, .inspect (knock 22)]

/-- The last three packets are in one window, and the last is dropped. -/
theorem drizzle_stopped :
    (∀ e ∈ drizzle, e.keepsWatch = true) ∧ steady.behaviour = .drop ∧ steady.rateThreshold ≠ 0 ∧
      ∃ before burst x after,
        (start steady 0).watch (.v4 0xC6336407) drizzle = before ++ (burst ++ [x]) ++ after ∧ before.length = 2 ∧
          (burst ++ [x]).length = 3 ∧ x.2.drop = true ∧
          ¬ Split steady.window (before.map Prod.fst) ((burst ++ [x]).map Prod.fst) := by
  have hevents : ∀ e ∈ drizzle, e.keepsWatch = true := by decide
  obtain ⟨before, burst, x, after, hwatch, hbefore, hlength, hdrop, hopen⟩ : ∃ before burst x after,
      (start steady 0).watch (.v4 0xC6336407) drizzle = before ++ (burst ++ [x]) ++ after ∧ before.length = 2 ∧
        (burst ++ [x]).length = 3 ∧ x.2.drop = true ∧
        ¬ FansOut steady (openWindow steady.window ((before ++ (burst ++ [x])).map Prod.fst)) :=
    ⟨[_, _], [_, _], _, [], rfl, rfl, rfl, by decide, by simp [FansOut, steady, strict, DetectorConfig.default]⟩
  have hsplit := ((burst_dropped_iff steady 0 drizzle (.v4 0xC6336407) hevents rfl (by decide)).1
    before burst x after hwatch hlength).1 hdrop
  exact ⟨hevents, rfl, by decide, before, burst, x, after, hwatch, hbefore, hlength, hdrop, hsplit.resolve_right hopen⟩

/-- The three packets in the middle came within three seconds, and the last of them passes. -/
theorem drizzle_passes :
    ¬ ∀ (config : DetectorConfig) (now : Nat) (events : List DetectorEvent) (source : Address) before burst x after,
      (∀ e ∈ events, e.keepsWatch = true) → config.behaviour = .drop → config.rateThreshold ≠ 0 →
      (start config now).watch source events = before ++ (burst ++ [x]) ++ after →
      (burst ++ [x]).length = config.rateThreshold.toNat →
      (∀ y ∈ burst, x.1.time - y.1.time ≤ config.window) → x.2.drop = true := by
  intro h
  obtain ⟨before, burst, x, after, hwatch, hlength, hspan, hpassed⟩ : ∃ before burst x after,
      (start steady 0).watch (.v4 0xC6336407) drizzle = before ++ (burst ++ [x]) ++ after ∧
        (burst ++ [x]).length = 3 ∧ (∀ y ∈ burst, x.1.time - y.1.time ≤ steady.window) ∧ x.2.drop = false :=
    ⟨[_], [_, _], _, [_], rfl, rfl, by decide, by decide⟩
  have hdropped := h steady 0 drizzle _ before burst x after (by decide) rfl (by decide) hwatch hlength hspan
  cases hpassed.symm.trans hdropped

end DetectorState

end Router
