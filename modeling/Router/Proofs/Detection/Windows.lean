import Mathlib.Data.Finset.Card
import Mathlib.Data.Finset.Dedup
import Router.Proofs.Detection.History

/-!
# What a history says of a source

The sightings of a source fall into windows: one that comes too late for the open window opens the next
(`Sighting.openWindow`). The conditions on a window stand in a table, and the first that holds decides
(`Sighting.decides?`); it raises an alert unless one of its kind was raised in the window before
(`Sighting.Raises`). The window that the detector keeps counts what the open window of the history holds
(`SourceWindow.Tallies`), and remembers what was raised in it (`SourceWindow.Reports`), through every event that keeps
the thresholds (`DetectorState.follows_step`). Main statement: what is said of a sighting is what the history of its
source says (`DetectorState.judged_run`).
-/

namespace Router

/-! ## Windows of a history -/

namespace Sighting

/-- The sightings of the open window that one at a time joins: none if the window is over by then. -/
def joined (length : Nat) (window : List Sighting) (time : Nat) : List Sighting :=
  if window.head?.any fun first => length < time - first.time then [] else window

/-- The window that is open after a history: each sighting joins the one open before it, or opens the next. -/
def openWindow (length : Nat) (history : List Sighting) : List Sighting :=
  history.foldl (fun window x => joined length window x.time ++ [x]) []

/-- A window that is over stays over. -/
theorem joined_eq_nil_of_le {length time time' : Nat} {window : List Sighting} (h : joined length window time = [])
    (hle : time ≤ time') : joined length window time' = [] := by
  cases window with
  | nil => rfl
  | cons first rest =>
    have hover : length < time - first.time := by
      by_contra hwithin
      rw [joined, List.head?_cons, Option.any_some, decide_eq_false hwithin] at h
      cases h
    rw [joined, List.head?_cons, Option.any_some, decide_eq_true (by omega), if_pos rfl]

theorem openWindow_append_singleton (length : Nat) (history : List Sighting) (x : Sighting) :
    openWindow length (history ++ [x]) = joined length (openWindow length history) x.time ++ [x] := by
  rw [openWindow, List.foldl_append]
  rfl

theorem openWindow_suffix (length : Nat) (history : List Sighting) : openWindow length history <:+ history := by
  induction history using List.reverseRecOn with
  | nil => exact List.suffix_rfl
  | append_singleton history x ih =>
    rw [openWindow_append_singleton]
    unfold joined
    split
    · exact List.suffix_append history [x]
    · exact List.suffix_concat_iff.2 (.inr ⟨_, rfl, ih⟩)

/-! ## Conditions on a window -/

/-- The destination ports in a window, where the protocol has ports. -/
def destinationPorts (window : List Sighting) : List UInt16 :=
  (window.filter fun x => x.metadata.protocol.hasPorts).map fun x => x.metadata.destinationPort

/-- The destination addresses in a window. -/
def destinations (window : List Sighting) : List Address :=
  window.filterMap fun x => x.metadata.destination

/-- A condition on a window: how many there are of what it counts, how many it takes, and what is found then. -/
structure Condition where
  threshold : UInt64
  count : Nat
  finding : Finding

/-- A threshold of zero is not checked. -/
def Condition.holds (k : Condition) : Bool :=
  k.threshold ≠ 0 && k.threshold.toNat ≤ k.count

/-- The conditions in their order: packets, distinct destination ports, distinct destination addresses. -/
def conditions (c : DetectorConfig) (window : List Sighting) : List Condition := [
  ⟨c.rateThreshold, window.length, .rateSpike window.length c.window⟩,
  ⟨c.portScanThreshold, (destinationPorts window).toFinset.card, .portScan (destinationPorts window).toFinset.card⟩,
  ⟨c.sweepThreshold, (destinations window).toFinset.card, .sweep (destinations window).toFinset.card⟩]

/-- What the first condition that holds finds. -/
def decides? (c : DetectorConfig) (window : List Sighting) : Option Finding :=
  ((conditions c window).find? Condition.holds).map Condition.finding

/-- The first condition that holds raises an alert on the last of a window, none of its kind having been raised on one
in front of it. -/
def Raises (c : DetectorConfig) (window : List Sighting) (f : Finding) : Prop :=
  decides? c window = some f ∧
    ∀ front g, front <+: window → front ≠ window → decides? c front = some g → g.kind ≠ f.kind

variable {c : DetectorConfig} {seen window : List Sighting} {x : Sighting} {f : Finding}

theorem holds_eq_true_iff {k : Condition} : k.holds = true ↔ k.threshold ≠ 0 ∧ k.threshold.toNat ≤ k.count := by
  simp [Condition.holds]

theorem decides?_nil (c : DetectorConfig) : decides? c [] = none := by
  have hpos : ∀ threshold : UInt64, ¬ threshold = 0 → 0 < threshold.toNat := fun threshold h =>
    Nat.pos_of_ne_zero fun h' => h (UInt64.toNat_inj.1 h')
  simp only [decides?, Option.map_eq_none_iff, List.find?_eq_none, holds_eq_true_iff]
  simpa [conditions, destinationPorts, destinations] using ⟨hpos _, hpos _, hpos _⟩

/-- A condition decides on some sighting of a window exactly if it raised an alert on one. -/
theorem exists_raises_iff (kind : FindingKind) :
    (∃ front f, front <+: window ∧ Raises c front f ∧ f.kind = kind) ↔
      ∃ front f, front <+: window ∧ decides? c front = some f ∧ f.kind = kind := by
  constructor
  · rintro ⟨front, f, hfront, hf, rfl⟩
    exact ⟨front, f, hfront, hf.1, rfl⟩
  · -- Of the sightings on which the kind decides, the first raises the alert.
    rintro ⟨front, f, hfront, hf, rfl⟩
    induction hn : front.length using Nat.strongRecOn generalizing front f with
    | ind n ih =>
      by_cases hraises : Raises c front f
      · exact ⟨front, f, hfront, hraises, rfl⟩
      · have hearlier : ∃ front' g, front' <+: front ∧ front' ≠ front ∧ decides? c front' = some g ∧
            g.kind = f.kind := by
          by_contra hno
          exact hraises ⟨hf, fun front' g hpre hne hg hkind => hno ⟨front', g, hpre, hne, hg, hkind⟩⟩
        obtain ⟨front', g, hpre, hne, hg, hkind⟩ := hearlier
        have hlt : front'.length < n := by
          rw [← hn]
          exact Nat.lt_of_le_of_ne hpre.length_le fun h => hne (hpre.eq_of_length h)
        rw [← hkind]
        exact ih front'.length hlt front' g (hpre.trans hfront) hg rfl

/-- An alert is raised exactly when a condition decides and none of its kind was raised before in the window. -/
theorem raises_iff : Raises c window f ↔ decides? c window = some f ∧
    ¬ ∃ front g, front <+: window ∧ front ≠ window ∧ Raises c front g ∧ g.kind = f.kind := by
  constructor
  · rintro ⟨hf, hfirst⟩
    exact ⟨hf, fun ⟨front, g, hpre, hne, hg, hkind⟩ => hfirst front g hpre hne hg.1 hkind⟩
  · rintro ⟨hf, hnone⟩
    refine ⟨hf, fun front g hpre hne hg hkind => hnone ?_⟩
    obtain ⟨front', g', hpre', hraises, hkind'⟩ := (exists_raises_iff (f.kind)).2 ⟨front, g, List.prefix_rfl, hg, hkind⟩
    refine ⟨front', g', hpre'.trans hpre, ?_, hraises, hkind'⟩
    rintro rfl
    exact hne (hpre.eq_of_length (Nat.le_antisymm hpre.length_le hpre'.length_le))

theorem destinationPorts_append_singleton (seen : List Sighting) (x : Sighting) :
    destinationPorts (seen ++ [x]) = destinationPorts seen ++
      if x.metadata.protocol.hasPorts then [x.metadata.destinationPort] else [] := by
  cases h : x.metadata.protocol.hasPorts <;> simp [destinationPorts, h]

theorem destinations_append_singleton (seen : List Sighting) (x : Sighting) :
    destinations (seen ++ [x]) = destinations seen ++ x.metadata.destination.toList := by
  cases h : x.metadata.destination <;> simp [destinations, h]

end Sighting

/-! ## The window kept of a source -/

namespace SourceWindow

open Sighting

variable {c : DetectorConfig} {w : SourceWindow} {seen : List Sighting} {x : Sighting} {kinds kinds' : List FindingKind}

/-- A window counts the packets, the distinct ports and the distinct addresses of sightings. -/
structure Tallies (w : SourceWindow) (seen : List Sighting) : Prop where
  packets : w.packets = seen.length
  ports_nodup : w.ports.Nodup
  mem_ports : ∀ port, port ∈ w.ports ↔ port ∈ destinationPorts seen
  addresses_nodup : w.addresses.Nodup
  mem_addresses : ∀ a, a ∈ w.addresses ↔ a ∈ destinations seen

theorem tallies_openAt (now : Nat) : (openAt now).Tallies [] :=
  ⟨rfl, List.nodup_nil, fun _ => Iff.rfl, List.nodup_nil, fun _ => Iff.rfl⟩

theorem Tallies.count (h : w.Tallies seen) (x : Sighting) : (w.count x.metadata).Tallies (seen ++ [x]) where
  packets := by simp [SourceWindow.count, h.packets]
  ports_nodup := by
    unfold SourceWindow.count
    dsimp only
    split
    · exact h.ports_nodup.insert
    · exact h.ports_nodup
  mem_ports port := by
    rw [destinationPorts_append_singleton, List.mem_append, ← h.mem_ports]
    unfold SourceWindow.count
    dsimp only
    split
    · rw [List.mem_insert_iff, List.mem_singleton, or_comm]
    · simp
  addresses_nodup := by
    unfold SourceWindow.count
    cases x.metadata.destination with
    | none => exact h.addresses_nodup
    | some a => exact h.addresses_nodup.insert
  mem_addresses a := by
    rw [destinations_append_singleton, List.mem_append, ← h.mem_addresses]
    unfold SourceWindow.count
    cases x.metadata.destination with
    | none => simp
    | some b => simp [List.mem_insert_iff, or_comm]

theorem Tallies.alert (h : w.Tallies seen) (kinds : List FindingKind) : { w with alerted := kinds }.Tallies seen :=
  ⟨h.packets, h.ports_nodup, h.mem_ports, h.addresses_nodup, h.mem_addresses⟩

theorem card_toFinset_of_mem_iff {α : Type} [DecidableEq α] {xs ys : List α} (hxs : xs.Nodup)
    (h : ∀ a, a ∈ xs ↔ a ∈ ys) : ys.toFinset.card = xs.length := by
  rw [← List.toFinset_card_of_nodup hxs]
  congr 1
  ext a
  rw [List.mem_toFinset, List.mem_toFinset, h]

/-- The counts of a window are over the same thresholds as the sightings. -/
theorem Tallies.finding?_eq (h : w.Tallies seen) (c : DetectorConfig) : w.finding? c = decides? c seen := by
  have hports := card_toFinset_of_mem_iff h.ports_nodup h.mem_ports
  have haddresses := card_toFinset_of_mem_iff h.addresses_nodup h.mem_addresses
  simp only [decides?, conditions, hports, haddresses, ← h.packets, List.find?_cons, finding?]
  by_cases hrate : c.rateThreshold ≠ 0 ∧ c.rateThreshold.toNat ≤ w.packets
  · rw [if_pos hrate, holds_eq_true_iff.2 hrate]
    rfl
  · rw [if_neg hrate, eq_false_of_ne_true (mt holds_eq_true_iff.1 hrate)]
    by_cases hscan : c.portScanThreshold ≠ 0 ∧ c.portScanThreshold.toNat ≤ w.ports.length
    · rw [if_pos hscan, holds_eq_true_iff.2 hscan]
      rfl
    · rw [if_neg hscan, eq_false_of_ne_true (mt holds_eq_true_iff.1 hscan)]
      by_cases hsweep : c.sweepThreshold ≠ 0 ∧ c.sweepThreshold.toNat ≤ w.addresses.length
      · rw [if_pos hsweep, holds_eq_true_iff.2 hsweep]
        rfl
      · rw [if_neg hsweep, eq_false_of_ne_true (mt holds_eq_true_iff.1 hsweep)]
        rfl

/-- Kinds of findings are those that decided on some of the sightings of a window. -/
def Reports (c : DetectorConfig) (kinds : List FindingKind) (seen : List Sighting) : Prop :=
  ∀ kind, kind ∈ kinds ↔ ∃ front f, front <+: seen ∧ decides? c front = some f ∧ f.kind = kind

theorem reports_nil (c : DetectorConfig) : Reports c [] [] := by
  intro kind
  constructor
  · intro h
    cases h
  · rintro ⟨front, f, hfront, hf, -⟩
    rw [List.prefix_nil.1 hfront, decides?_nil] at hf
    cases hf

theorem Reports.append (h : Reports c kinds seen)
    (hkinds : ∀ kind, kind ∈ kinds' ↔ kind ∈ kinds ∨ ∃ f, decides? c (seen ++ [x]) = some f ∧ f.kind = kind) :
    Reports c kinds' (seen ++ [x]) := by
  intro kind
  rw [hkinds, h]
  constructor
  · rintro (⟨front, f, hfront, hf⟩ | ⟨f, hf⟩)
    · exact ⟨front, f, hfront.trans (List.prefix_append seen [x]), hf⟩
    · exact ⟨_, f, List.prefix_rfl, hf⟩
  · rintro ⟨front, f, hfront, hf⟩
    rcases List.prefix_concat_iff.1 hfront with rfl | hfront
    · exact .inr ⟨f, hf⟩
    · exact .inl ⟨front, f, hfront, hf⟩

/-- What was not reported yet is raised. -/
theorem Reports.raises_iff (h : Reports c kinds seen) {f : Finding} :
    Raises c (seen ++ [x]) f ↔ decides? c (seen ++ [x]) = some f ∧ f.kind ∉ kinds := by
  unfold Raises
  rw [h]
  refine and_congr_right fun _ => ⟨?_, ?_⟩
  · rintro hfirst ⟨front, g, hfront, hg, hkind⟩
    refine hfirst front g (hfront.trans (List.prefix_append seen [x])) ?_ hg hkind
    rintro rfl
    have hlength := hfront.length_le
    rw [List.length_append, List.length_singleton] at hlength
    omega
  · intro hnone front g hfront hne hg hkind
    rcases List.prefix_concat_iff.1 hfront with h | hfront
    · exact hne h
    · exact hnone ⟨front, g, hfront, hg, hkind⟩

/-- A window of the detector keeps what there is to know of a window of a history. -/
structure Keeps (c : DetectorConfig) (w : SourceWindow) (window : List Sighting) : Prop where
  opened : window.head?.map Sighting.time = some w.opened
  tallies : w.Tallies window
  reports : Reports c w.alerted window

/-- It is over for the detector when it is over for the history. -/
theorem Keeps.joined_eq {window : List Sighting} (h : w.Keeps c window) (length time : Nat) :
    joined length window time = if w.isExpired time length then [] else window := by
  obtain ⟨first, hfirst, hopened⟩ := Option.map_eq_some_iff.1 h.opened
  simp [joined, hfirst, hopened, isExpired]

end SourceWindow

/-! ## The judgement on a sighting -/

/-- What is said of a sighting, the last of a window: the packet is to be dropped if some condition holds and that is
the response, and an alert is raised if the first that holds raises it. -/
structure Sighting.Judges (c : DetectorConfig) (window : List Sighting) (x : Sighting) (d : Detection) : Prop where
  drop : d.drop = true ↔ (decides? c window).isSome = true ∧ c.behaviour = .drop
  alert : ∀ a, d.alert = some a ↔ ∃ f, Raises c window f ∧ a = .on f x.metadata

namespace DetectorState

open Sighting SourceWindow

variable {s : DetectorState} {source : Address} {e : DetectorEvent} {history : List Sighting}

/-- The window kept of a source is the one that its history leaves open. None is kept only if the next sighting opens
one. -/
def Follows (s : DetectorState) (source : Address) (history : List Sighting) : Prop :=
  match s.detector.windows.get? source with
  | some w => w.Keeps s.detector.config (openWindow s.detector.config.window history)
  | none => joined s.detector.config.window (openWindow s.detector.config.window history) s.now = []

theorem follows_start (config : DetectorConfig) (now : Nat) (source : Address) :
    (start config now).Follows source [] := rfl

theorem follows_of_some {w : SourceWindow} (h : s.Follows source history)
    (hw : s.detector.windows.get? source = some w) :
    w.Keeps s.detector.config (openWindow s.detector.config.window history) := by
  rw [Follows, hw] at h
  exact h

/-- The window that a sighting is judged by is the one that it joins or opens. -/
theorem windowFor_spec (h : s.Follows source history) (m : Metadata) :
    let before := joined s.detector.config.window (openWindow s.detector.config.window history) s.now
    let w := s.detector.windowFor s.now source m
    let x : Sighting := ⟨s.now, m⟩
    (before ++ [x]).head?.map Sighting.time = some w.opened ∧ w.Tallies (before ++ [x]) ∧
      Reports s.detector.config w.alerted before := by
  have hnew : let w := (SourceWindow.openAt s.now).count m
      let x : Sighting := ⟨s.now, m⟩
      ([] ++ [x]).head?.map Sighting.time = some w.opened ∧ w.Tallies ([] ++ [x]) ∧
        Reports s.detector.config w.alerted [] :=
    ⟨rfl, (tallies_openAt s.now).count ⟨s.now, m⟩, reports_nil _⟩
  dsimp only
  cases hw : s.detector.windows.get? source with
  | none =>
    rw [Follows, hw] at h
    simp only [Detector.windowFor, hw, h]
    exact hnew
  | some w =>
    have hkeeps := follows_of_some h hw
    simp only [Detector.windowFor, hw, hkeeps.joined_eq]
    split
    · exact hnew
    · refine ⟨?_, hkeeps.tallies.count ⟨s.now, m⟩, hkeeps.reports⟩
      obtain ⟨first, hfirst, hfirst'⟩ := Option.map_eq_some_iff.1 hkeeps.opened
      rw [List.head?_append, hfirst, Option.some_or, Option.map_some, hfirst']
      rfl

/-- A sighting is judged by the window of its source, and then counts in it. -/
theorem judged_inspect (h : s.Follows source history) (m : Metadata) :
    let window := openWindow s.detector.config.window (history ++ [⟨s.now, m⟩])
    Judges s.detector.config window ⟨s.now, m⟩ (s.detector.inspect s.now source m).1 ∧
      ∃ w, (s.detector.inspect s.now source m).2.windows.get? source = some w ∧
        w.Keeps s.detector.config window := by
  obtain ⟨hopened, htallies, hreports⟩ := windowFor_spec h m
  have hfinding := htallies.finding?_eq s.detector.config
  dsimp only at hopened htallies hreports hfinding ⊢
  rw [openWindow_append_singleton]
  obtain ⟨f, hf, hkind, hsaid, hwindows⟩ | ⟨f, hf, hkind, hsaid, hwindows⟩ | ⟨hf, hsaid, hwindows⟩ :=
    s.detector.inspect_cases s.now source m
  all_goals
    rw [hfinding] at hf
    rw [hsaid, hwindows, Assoc.get?_insert, if_pos rfl]
  · refine ⟨⟨by simp [hf], fun a => ⟨?_, ?_⟩⟩, _, rfl, hopened, htallies.alert _, hreports.append fun kind => ?_⟩
    · intro ha
      cases ha
      exact ⟨f, hreports.raises_iff.2 ⟨hf, hkind⟩, rfl⟩
    · rintro ⟨g, hg, rfl⟩
      rw [Option.some.inj (hg.1.symm.trans hf)]
    · simp [hf, or_comm, eq_comm]
  · refine ⟨⟨by simp [hf], fun a => ⟨?_, ?_⟩⟩, _, rfl, hopened, htallies, hreports.append fun kind => ?_⟩
    · intro ha
      cases ha
    · rintro ⟨g, hg, -⟩
      obtain ⟨hg, hnew⟩ := hreports.raises_iff.1 hg
      rw [Option.some.inj (hg.symm.trans hf)] at hnew
      exact (hnew hkind).elim
    · simp only [hf, Option.some.injEq, exists_eq_left']
      refine ⟨.inl, ?_⟩
      rintro (h | rfl)
      · exact h
      · exact hkind
  · refine ⟨⟨by simp [hf, Detection.none], fun a => ⟨?_, ?_⟩⟩, _, rfl, hopened, htallies,
      hreports.append fun kind => ?_⟩
    · intro ha
      cases ha
    · rintro ⟨g, hg, -⟩
      cases hf.symm.trans hg.1
    · simp [hf]

/-- The history of a source goes on by what an event lets be seen of it. -/
theorem follows_step (hdistinct : s.detector.windows.Distinct) (h : s.Follows source history)
    (he : e.keepsWatch = true) :
    (s.step e).Follows source (history ++ (s.sighted? source e).toList.map Prod.fst) := by
  have hconfig : (s.step e).detector.config = s.detector.config := config_step he
  cases look_step hdistinct source he with
  | judged m seen window =>
    obtain ⟨-, w, hw, hkeeps⟩ := judged_inspect h m
    rw [Follows, window, hw, hconfig, seen]
    exact hkeeps
  | kept unseen window =>
    rw [unseen, Option.toList_none, List.map_nil, List.append_nil]
    rw [Follows] at h ⊢
    rw [window, hconfig]
    cases hw : s.detector.windows.get? source with
    | some w =>
      rw [hw] at h
      exact h
    | none =>
      rw [hw] at h
      exact joined_eq_nil_of_le h (now_le_step s e)
  | pruned w unseen before ended window =>
    rw [unseen, Option.toList_none, List.map_nil, List.append_nil, Follows, window, hconfig]
    have hover : joined s.detector.config.window (openWindow s.detector.config.window history) s.now = [] := by
      rw [(follows_of_some h before).joined_eq, if_pos ended]
    exact joined_eq_nil_of_le hover (now_le_step s e)

theorem judged_step (hdistinct : s.detector.windows.Distinct) (h : s.Follows source history)
    (he : e.keepsWatch = true) {x : Sighting × Detection} (hx : s.sighted? source e = some x) :
    Judges s.detector.config (openWindow s.detector.config.window (history ++ [x.1])) x.1 x.2 := by
  cases look_step hdistinct source he with
  | judged m seen window =>
    obtain rfl := Option.some.inj (seen.symm.trans hx)
    exact (judged_inspect h m).1
  | kept unseen window => cases unseen.symm.trans hx
  | pruned w unseen before ended window => cases unseen.symm.trans hx

/-- The same for every sighting that events bring. -/
theorem judged_watch {events : List DetectorEvent} {before after : List (Sighting × Detection)}
    {x : Sighting × Detection} (hdistinct : s.detector.windows.Distinct) (h : s.Follows source history)
    (hevents : ∀ e ∈ events, e.keepsWatch = true) (hwatch : s.watch source events = before ++ x :: after) :
    Judges s.detector.config (openWindow s.detector.config.window (history ++ before.map Prod.fst ++ [x.1]))
      x.1 x.2 := by
  induction events generalizing s history before with
  | nil => cases before <;> cases hwatch
  | cons e rest ih =>
    obtain ⟨he, hrest⟩ := List.forall_mem_cons.1 hevents
    have hnext := follows_step hdistinct h he
    rw [watch] at hwatch
    cases hseen : s.sighted? source e with
    | none =>
      rw [hseen] at hwatch hnext
      simpa [config_step he] using ih (distinct_step hdistinct e) hnext hrest hwatch
    | some y =>
      rw [hseen] at hwatch hnext
      cases before with
      | nil =>
        obtain ⟨rfl, -⟩ := List.cons.inj hwatch
        simpa using judged_step hdistinct h he hseen
      | cons z before =>
        obtain ⟨rfl, htail⟩ := List.cons.inj hwatch
        simpa [config_step he] using ih (distinct_step hdistinct e) hnext hrest htail

theorem judged_start {config : DetectorConfig} {now : Nat} {events : List DetectorEvent}
    {before after : List (Sighting × Detection)} {x : Sighting × Detection}
    (hevents : ∀ e ∈ events, e.keepsWatch = true)
    (hwatch : (start config now).watch source events = before ++ x :: after) :
    Judges config (openWindow config.window (before.map Prod.fst ++ [x.1])) x.1 x.2 :=
  judged_watch Assoc.distinct_nil (follows_start config now source) hevents hwatch

/-- What a detector says of a sighting is what the history of the source says: the first condition that holds on the
window that the sighting joins or opens has the packet dropped if that is the response, and raises an alert if none of
its kind was raised in that window. -/
theorem judged_run (config : DetectorConfig) (now : Nat) (events : List DetectorEvent) (source : Address)
    (before after : List (Sighting × Detection)) (x : Sighting × Detection)
    (hevents : ∀ e ∈ events, e.keepsWatch = true)
    (hwatch : (start config now).watch source events = before ++ x :: after) :
    Judges config (openWindow config.window (before.map Prod.fst ++ [x.1])) x.1 x.2 ∧
      ∀ window f, Raises config window f ↔ decides? config window = some f ∧
        ¬ ∃ front g, front <+: window ∧ front ≠ window ∧ Raises config front g ∧ g.kind = f.kind :=
  ⟨judged_start hevents hwatch, fun _ _ => raises_iff⟩

/-- Three packets or two ports are too many within ten seconds. -/
def strict : DetectorConfig :=
  { DetectorConfig.default with rateThreshold := 3, portScanThreshold := 2, behaviour := .drop }

/-- A packet of a scanner to a port. -/
def knock (port : UInt16) : Packet :=
  .new [] "wan0" ⟨some (.v4 0xC6336407), some (.v4 0xCB00710A), .tcp, 40000, port, 0⟩

/-- The second port is one too many, and so are the two packets after it. The last packet opens a window. -/
def scan : List DetectorEvent :=
  [.inspect (knock 22), .wait (9 * Duration.second), .inspect (knock 23), .inspect (knock 22), .inspect (knock 24),
    .wait (2 * Duration.second), .inspect (knock 25)]

/-- The fourth packet is dropped as the third one was, and raises no alert: of the two conditions that hold the first
raised its alert on the third packet. -/
theorem judged_scan :
    (∀ e ∈ scan, e.keepsWatch = true) ∧ ∃ before x after,
      (start strict 0).watch (.v4 0xC6336407) scan = before ++ x :: after ∧ before.length = 3 ∧
        x.2 = ⟨true, none⟩ ∧ Judges strict (openWindow strict.window (before.map Prod.fst ++ [x.1])) x.1 x.2 ∧
        decides? strict (openWindow strict.window (before.map Prod.fst ++ [x.1])) =
          some (.rateSpike 4 (10 * Duration.second)) := by
  have hevents : ∀ e ∈ scan, e.keepsWatch = true := by decide
  obtain ⟨before, x, after, hwatch, hlength, hsaid, hdecides⟩ : ∃ before x after,
      (start strict 0).watch (.v4 0xC6336407) scan = before ++ x :: after ∧ before.length = 3 ∧
        x.2 = ⟨true, none⟩ ∧ decides? strict (openWindow strict.window (before.map Prod.fst ++ [x.1])) =
          some (.rateSpike 4 (10 * Duration.second)) :=
    ⟨[_, _, _], _, [_], rfl, rfl, by decide, by decide⟩
  have hjudged := judged_run strict 0 scan (.v4 0xC6336407) before after x hevents hwatch
  exact ⟨hevents, before, x, after, hwatch, hlength, hsaid, hjudged.1, hdecides⟩

end DetectorState

end Router
