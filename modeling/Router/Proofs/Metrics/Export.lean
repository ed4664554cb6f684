import Mathlib.Algebra.Ring.Nat
import Mathlib.Data.List.Nodup
import Mathlib.Data.List.Induction
import Router.Proofs.Assoc
import Router.Proofs.Metrics

/-!
# Exported counters

Every counter is exported under one name: a counter of the router under its own, one of an interface under the name of
the interface with an end that says what is counted. No such end is the end of another one, nor of the name of a
counter of the router, so whatever interfaces are called, no two counters meet (`eq_of_append_suffix`,
`name_ne_append_suffix`), and each is found under its name (`mem_entries_iff`). Packets are recorded one after another
(`Metrics.run`). Main statement: after any records each interface that was recorded is exported with the totals of its
own records, no other interface is, and the packets and failures of the router are the sums of those of the interfaces
(`exported_run`).
-/

namespace Router

/-! ## Names -/

/-- The ends of the names that the counters of an interface are exported under. -/
def InterfaceTally.suffixes : List String :=
  ["_rx_packets", "_rx_bytes", "_tx_packets", "_tx_bytes", "_tx_errors"]

theorem InterfaceTally.map_fst_entries (t : InterfaceTally) : t.entries.map Prod.fst = suffixes := rfl

namespace Metrics

open InterfaceTally (suffixes)

variable {m : Metrics} {name other s t : String}

/-- What ends in one of two texts and in the other has the shorter one at the end of the longer one. -/
theorem suffix_or_suffix (h : name ++ s = other ++ t) : s.toList <:+ t.toList ∨ t.toList <:+ s.toList := by
  have hlist : name.toList ++ s.toList = other.toList ++ t.toList := by
    rw [← String.toList_append, h, String.toList_append]
  exact List.suffix_or_suffix_of_suffix ⟨_, hlist⟩ ⟨_, rfl⟩

theorem eq_of_append_suffix (hs : s ∈ suffixes) (ht : t ∈ suffixes) (h : name ++ s = other ++ t) :
    name = other ∧ s = t := by
  have hends : ∀ s ∈ suffixes, ∀ t ∈ suffixes, s.toList <:+ t.toList → s = t := by decide
  have hst : s = t := by
    rcases suffix_or_suffix h with hsuffix | hsuffix
    · exact hends s hs t ht hsuffix
    · exact (hends t ht s hs hsuffix).symm
  subst hst
  exact ⟨String.append_left_inj s |>.1 h, rfl⟩

theorem name_ne_append_suffix (c : Counter) (hs : s ∈ suffixes) : c.name ≠ name ++ s := by
  have hends : ∀ c ∈ Counter.all, ∀ s ∈ suffixes, ¬ s.toList <:+ c.name.toList := by decide
  intro h
  have hall : c ∈ Counter.all := by cases c <;> decide
  have hsuffix : s.toList <:+ c.name.toList := ⟨name.toList, by rw [h, String.toList_append]⟩
  exact hends c hall s hs hsuffix

theorem map_fst_entries (m : Metrics) :
    m.entries.map Prod.fst =
      Counter.all.map Counter.name ++ m.interfaces.flatMap fun e => suffixes.map fun s => e.1 ++ s := by
  rw [entries, List.map_append, List.map_map, List.map_flatMap]
  rfl

theorem distinct_entries (h : Assoc.Distinct m.interfaces) : Assoc.Distinct m.entries := by
  rw [Assoc.Distinct, map_fst_entries]
  refine List.nodup_append.2 ⟨by decide, List.nodup_flatMap.2 ⟨fun e _ => ?_, ?_⟩, ?_⟩
  · have hsuffixes : suffixes.Nodup := by decide
    exact hsuffixes.map_on fun s hs t ht h => (eq_of_append_suffix hs ht h).2
  · refine (List.pairwise_map.1 h).imp fun {a b} hne x ha hb => ?_
    obtain ⟨s, hs, rfl⟩ := List.mem_map.1 ha
    obtain ⟨t, ht, heq⟩ := List.mem_map.1 hb
    exact hne (eq_of_append_suffix hs ht heq.symm).1
  · intro x hx y hy
    obtain ⟨c, -, rfl⟩ := List.mem_map.1 hx
    obtain ⟨e, -, hy⟩ := List.mem_flatMap.1 hy
    obtain ⟨s, hs, rfl⟩ := List.mem_map.1 hy
    exact name_ne_append_suffix c hs

/-- What is exported under the name of an interface and an end is the counter of that interface with that end. -/
theorem mem_entries_iff {n : UInt64} (hs : s ∈ suffixes) :
    (name ++ s, n) ∈ m.entries ↔ ∃ t, (name, t) ∈ m.interfaces ∧ (s, n) ∈ t.entries := by
  rw [entries, List.mem_append, List.mem_map, List.mem_flatMap]
  constructor
  · rintro (⟨c, -, hc⟩ | ⟨⟨other, tally⟩, hother, hentry⟩)
    · exact absurd (congrArg Prod.fst hc) (name_ne_append_suffix c hs)
    · obtain ⟨⟨t, k⟩, ht, heq⟩ := List.mem_map.1 hentry
      obtain ⟨hname, rfl⟩ := Prod.mk.inj heq
      have hsuffix : t ∈ suffixes := by
        rw [← tally.map_fst_entries]
        exact List.mem_map.2 ⟨(t, k), ht, rfl⟩
      obtain ⟨rfl, rfl⟩ := eq_of_append_suffix hsuffix hs hname
      exact ⟨tally, hother, ht⟩
  · rintro ⟨tally, hname, hentry⟩
    exact .inr ⟨(name, tally), hname, List.mem_map.2 ⟨(s, n), hentry, rfl⟩⟩

/-! ## Tallies by name -/

section Interfaces

variable {interfaces : List (String × InterfaceTally)} {f : InterfaceTally → InterfaceTally}

theorem mem_map_fst_updateInterface :
    other ∈ (updateInterface name f interfaces).map Prod.fst ↔ other = name ∨ other ∈ interfaces.map Prod.fst := by
  induction interfaces with
  | nil => simp [updateInterface]
  | cons entry rest ih =>
    rw [updateInterface]
    split
    · rename_i hname
      simp [hname]
    · split
      · simp
      · rw [List.map_cons, List.map_cons, List.mem_cons, ih, List.mem_cons, or_left_comm]

theorem ascending_updateInterface (h : (interfaces.map Prod.fst).Pairwise (· < ·)) :
    ((updateInterface name f interfaces).map Prod.fst).Pairwise (· < ·) := by
  induction interfaces with
  | nil => simp [updateInterface]
  | cons entry rest ih =>
    obtain ⟨hentry, hrest⟩ := List.pairwise_cons.1 h
    rw [updateInterface]
    split
    · rename_i hname
      rw [hname]
      exact h
    · rename_i hname
      split
      · rename_i hlt
        refine List.pairwise_cons.2 ⟨fun x hx => ?_, h⟩
        rcases List.mem_cons.1 hx with rfl | hx
        · exact hlt
        · exact hlt.trans (hentry x hx)
      · rename_i hlt
        refine List.pairwise_cons.2 ⟨fun x hx => ?_, ih hrest⟩
        rcases mem_map_fst_updateInterface.1 hx with rfl | hx
        · exact lt_of_le_of_ne (not_lt.1 hlt) (Ne.symm hname)
        · exact hentry x hx

/-- A counter that each change of a tally increases by the same has increased by that over all interfaces. -/
theorem sum_updateInterface {g : InterfaceTally → UInt64} {d : UInt64} (hzero : g .zero = 0)
    (hf : ∀ t, g (f t) = g t + d) (name : String) (interfaces : List (String × InterfaceTally)) :
    UInt64.ofNat ((updateInterface name f interfaces).map fun e => (g e.2).toNat).sum =
      UInt64.ofNat (interfaces.map fun e => (g e.2).toNat).sum + d := by
  induction interfaces with
  | nil => simp [updateInterface, hf, hzero]
  | cons entry rest ih =>
    rw [updateInterface]
    split
    · simp only [List.map_cons, List.sum_cons, UInt64.ofNat_add, UInt64.ofNat_toNat, hf]
      ac_rfl
    · split
      · simp only [List.map_cons, List.sum_cons, UInt64.ofNat_add, UInt64.ofNat_toNat, hf, hzero]
        ac_rfl
      · simp only [List.map_cons, List.sum_cons, UInt64.ofNat_add, ih]
        ac_rfl

end Interfaces

end Metrics

/-! ## Records -/

/-- What is recorded of an interface. -/
inductive InterfaceEvent
  | received (name : String) (bytes : Nat)
  | sent (name : String) (bytes : Nat)
  | failed (name : String)

namespace InterfaceEvent

/-- The interface of a record. -/
def interface : InterfaceEvent → String
  | .received name _ | .sent name _ | .failed name => name

/-- What a record adds to the tally of its interface. -/
def enter : InterfaceEvent → InterfaceTally → InterfaceTally
  | .received _ bytes, t => t.received bytes
  | .sent _ bytes, t => t.sent bytes
  | .failed _, t => t.failed

/-- The octets of a packet that came in through an interface. -/
def received? (name : String) : InterfaceEvent → Option Nat
  | .received other bytes => if other = name then some bytes else none
  | _ => none

/-- The octets of a packet that went out through an interface. -/
def sent? (name : String) : InterfaceEvent → Option Nat
  | .sent other bytes => if other = name then some bytes else none
  | _ => none

/-- Whether a packet failed to go out through an interface. -/
def fails (name : String) : InterfaceEvent → Bool
  | .failed other => other = name
  | _ => false

/-- What went through an interface in all, modulo `2 ^ 64`. -/
def total (name : String) (events : List InterfaceEvent) : InterfaceTally where
  rxPackets := .ofNat (events.filterMap (received? name)).length
  rxBytes := .ofNat (events.filterMap (received? name)).sum
  txPackets := .ofNat (events.filterMap (sent? name)).length
  txBytes := .ofNat (events.filterMap (sent? name)).sum
  txErrors := .ofNat (events.countP (fails name))

theorem total_append_singleton (name : String) (events : List InterfaceEvent) (e : InterfaceEvent) :
    total name (events ++ [e]) = if name = e.interface then e.enter (total name events) else total name events := by
  by_cases h : name = e.interface
  · subst h
    cases e <;> simp [total, received?, sent?, fails, interface, enter, InterfaceTally.received, InterfaceTally.sent,
      InterfaceTally.failed, UInt64.ofNat_add, List.filterMap_cons]
  · have hne : e.interface ≠ name := Ne.symm h
    rw [if_neg h]
    cases e <;> simp only [interface] at hne <;> simp [total, received?, sent?, fails, hne, List.filterMap_cons]

end InterfaceEvent

namespace Metrics

open InterfaceEvent
open InterfaceTally (suffixes)

/-- The metrics after a record. -/
def step (m : Metrics) : InterfaceEvent → Metrics
  | .received name bytes => m.received name bytes
  | .sent name bytes => m.sent name bytes
  | .failed name => m.failed name

/-- The metrics after records, from none. -/
def run (events : List InterfaceEvent) : Metrics :=
  events.foldl step zero

theorem interfaces_step (m : Metrics) (e : InterfaceEvent) :
    (m.step e).interfaces = updateInterface e.interface e.enter m.interfaces := by
  cases e <;> rfl

theorem run_append_singleton (events : List InterfaceEvent) (e : InterfaceEvent) :
    run (events ++ [e]) = (run events).step e := by
  rw [run, List.foldl_append]
  rfl

theorem ascending_run (events : List InterfaceEvent) :
    ((run events).interfaces.map Prod.fst).Pairwise (· < ·) := by
  induction events using List.reverseRecOn with
  | nil => exact .nil
  | append_singleton events e ih =>
    rw [run_append_singleton, interfaces_step]
    exact ascending_updateInterface ih

/-- The interfaces that have a tally are those that were recorded. -/
theorem mem_map_fst_run {name : String} (events : List InterfaceEvent) :
    name ∈ (run events).interfaces.map Prod.fst ↔ name ∈ events.map interface := by
  induction events using List.reverseRecOn with
  | nil => rfl
  | append_singleton events e ih =>
    rw [run_append_singleton, interfaces_step, mem_map_fst_updateInterface, ih, List.map_append, List.mem_append,
      List.map_singleton, List.mem_singleton, or_comm]

theorem tally_run (name : String) (events : List InterfaceEvent) : (run events).tally name = total name events := by
  induction events using List.reverseRecOn with
  | nil => rfl
  | append_singleton events e ih =>
    have hstep : ((run events).step e).tally name =
        if name = e.interface then e.enter ((run events).tally e.interface) else (run events).tally name := by
      rw [← tally_onInterface, tally, interfaces_step]
      rfl
    rw [run_append_singleton, hstep, total_append_singleton]
    split
    · rename_i hname
      rw [← hname, ih]
    · exact ih

/-- A counter of the router that goes with a counter of the interfaces is the sum of those. -/
theorem sum_run {c : Counter} {g : InterfaceTally → UInt64} (hzero : g .zero = 0)
    (hstep : ∀ e : InterfaceEvent, ∃ d, (∀ t, g (e.enter t) = g t + d) ∧
      ∀ m : Metrics, (m.step e).totals.get c = m.totals.get c + d)
    (events : List InterfaceEvent) :
    (run events).totals.get c = UInt64.ofNat ((run events).interfaces.map fun e => (g e.2).toNat).sum := by
  induction events using List.reverseRecOn with
  | nil => cases c <;> rfl
  | append_singleton events e ih =>
    obtain ⟨d, htally, hcounter⟩ := hstep e
    rw [run_append_singleton, hcounter, interfaces_step, sum_updateInterface hzero htally, ih]

theorem packetsTransmitted_run (events : List InterfaceEvent) :
    (run events).totals.packetsTransmitted =
      UInt64.ofNat ((run events).interfaces.map fun e => e.2.txPackets.toNat).sum := by
  refine sum_run (c := .packetsTransmitted) (g := InterfaceTally.txPackets) rfl (fun e => ?_) events
  cases e with
  | sent => exact ⟨1, fun t => rfl, fun m => rfl⟩
  | received | failed => exact ⟨0, fun t => (UInt64.add_zero _).symm, fun m => (UInt64.add_zero _).symm⟩

theorem txErrors_run (events : List InterfaceEvent) :
    (run events).totals.txErrors = UInt64.ofNat ((run events).interfaces.map fun e => e.2.txErrors.toNat).sum := by
  refine sum_run (c := .txErrors) (g := InterfaceTally.txErrors) rfl (fun e => ?_) events
  cases e with
  | failed => exact ⟨1, fun t => rfl, fun m => rfl⟩
  | received | sent => exact ⟨0, fun t => (UInt64.add_zero _).symm, fun m => (UInt64.add_zero _).symm⟩

theorem distinct_entries_run (events : List InterfaceEvent) : Assoc.Distinct (run events).entries :=
  distinct_entries ((ascending_run events).imp ne_of_lt)

theorem get?_eq_some_iff_run {n : UInt64} {name : String} (events : List InterfaceEvent) :
    (run events).get? name = some n ↔ (name, n) ∈ (run events).entries :=
  (Assoc.mem_iff_get? (distinct_entries_run events)).symm

/-- A counter of the router is found under its name, whatever interfaces are called. -/
theorem get?_name_run (c : Counter) (events : List InterfaceEvent) :
    (run events).get? c.name = some ((run events).totals.get c) := by
  have hall : c ∈ Counter.all := by cases c <;> decide
  exact (get?_eq_some_iff_run events).2 (List.mem_append_left _ (List.mem_map.2 ⟨c, hall, rfl⟩))

/-- A number of an interface, if the interface was recorded. -/
def recorded (name : String) (events : List InterfaceEvent) (n : Nat) : Option UInt64 :=
  if name ∈ events.map interface then some (.ofNat n) else none

/-- A counter of an interface is found exactly if the interface was recorded. -/
theorem get?_run {name s : String} {n : Nat} (events : List InterfaceEvent)
    (he : (s, .ofNat n) ∈ (total name events).entries) : (run events).get? (name ++ s) = recorded name events n := by
  have hsuffix : s ∈ suffixes := by
    rw [← (total name events).map_fst_entries]
    exact List.mem_map_of_mem he
  rw [recorded]
  split
  · rename_i hrecorded
    obtain ⟨⟨other, t⟩, ht, rfl⟩ := List.mem_map.1 ((mem_map_fst_run events).2 hrecorded)
    have htally : t = total other events := by
      rw [← tally_run, tally_of_mem (List.pairwise_map.1 (ascending_run events)) ht]
    exact (get?_eq_some_iff_run events).2 ((mem_entries_iff hsuffix).2 ⟨t, ht, htally ▸ he⟩)
  · rename_i hrecorded
    refine Option.eq_none_iff_forall_ne_some.2 fun n hn => ?_
    obtain ⟨t, ht, -⟩ := (mem_entries_iff hsuffix).1 ((get?_eq_some_iff_run events).1 hn)
    exact hrecorded ((mem_map_fst_run events).1 (List.mem_map_of_mem ht))

/-- After any records no two counters are exported under one name, and each is found under its name. An interface that
was recorded is exported with the packets, octets and failures of its records, one that was not is not exported at all,
and what the router sent and failed to send are the sums over its interfaces; all modulo `2 ^ 64`. -/
theorem exported_run (events : List InterfaceEvent) :
    let m := run events
    (m.entries.map Prod.fst).Nodup ∧
      (∀ e ∈ m.entries, m.get? e.1 = some e.2) ∧
      (∀ c : Counter, m.get? c.name = some (m.totals.get c)) ∧
      (∀ name,
        m.get? (name ++ "_rx_packets") = recorded name events (events.filterMap (received? name)).length ∧
        m.get? (name ++ "_rx_bytes") = recorded name events (events.filterMap (received? name)).sum ∧
        m.get? (name ++ "_tx_packets") = recorded name events (events.filterMap (sent? name)).length ∧
        m.get? (name ++ "_tx_bytes") = recorded name events (events.filterMap (sent? name)).sum ∧
        m.get? (name ++ "_tx_errors") = recorded name events (events.countP (fails name))) ∧
      m.get? "packets_transmitted" = some (.ofNat (m.interfaces.map fun e => e.2.txPackets.toNat).sum) ∧
      m.get? "tx_errors" = some (.ofNat (m.interfaces.map fun e => e.2.txErrors.toNat).sum) := by
  have hname := fun c => get?_name_run c events
  refine ⟨distinct_entries_run events, fun e he => (get?_eq_some_iff_run events).2 he, hname, fun name => ?_, ?_, ?_⟩
  · have hfound : ∀ s n, (s, .ofNat n) ∈ (total name events).entries →
        (run events).get? (name ++ s) = recorded name events n := fun _ _ => get?_run events
    refine ⟨hfound _ _ ?_, hfound _ _ ?_, hfound _ _ ?_, hfound _ _ ?_, hfound _ _ ?_⟩ <;>
      simp [InterfaceTally.entries, total]
  · rw [← packetsTransmitted_run]
    exact hname .packetsTransmitted
  · rw [← txErrors_run]
    exact hname .txErrors

/-- Records of an interface without a name and of two whose names hold those of counters. -/
def oddRecords : List InterfaceEvent :=
  [.received "wan0" 60, .sent "" 1500, .received "wan0" 40, .failed "tx_errors", .sent "wan0_rx_bytes" 20, .failed ""]

/-- Each is exported with its own numbers, an interface that was not recorded is not, and two packets were sent. -/
theorem exported_oddRecords :
    (run oddRecords).get? ("wan0" ++ "_rx_bytes") = some 100 ∧
      (run oddRecords).get? ("" ++ "_tx_errors") = some 1 ∧
      (run oddRecords).get? ("tx_errors" ++ "_tx_errors") = some 1 ∧
      (run oddRecords).get? ("wan0_rx_bytes" ++ "_tx_packets") = some 1 ∧
      (run oddRecords).get? ("lan0" ++ "_rx_packets") = none ∧
      (run oddRecords).get? "packets_transmitted" = some 2 := by
  obtain ⟨-, -, -, hinterfaces, hsent, -⟩ := exported_run oddRecords
  refine ⟨(hinterfaces "wan0").2.1.trans (by decide), (hinterfaces "").2.2.2.2.trans (by decide),
    (hinterfaces "tx_errors").2.2.2.2.trans (by decide), (hinterfaces "wan0_rx_bytes").2.2.1.trans (by decide),
    (hinterfaces "lan0").1.trans (by decide), hsent.trans (by decide)⟩

end Metrics

end Router
