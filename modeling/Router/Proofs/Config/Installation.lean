import Router.Proofs.Config.Acceptance
import Router.Proofs.Config.Conversion
import Router.Proofs.Snapshot

/-!
# What a router takes from its configuration

The settings of an accepted configuration hold each of its lists, converted entry by entry (`fits_of_compile`). The
filter, the NAT rules, the routes and the signatures are installed as they stand in the settings. The classes are ranked
after the later ones of each name are left out, and as no class of an accepted configuration has the name of an earlier
one (`nodup_names_of_classDefects`), none is left out (`Scheduler.served_replace`). Main statement: a router that is
built from an accepted configuration holds all of it (`held_of_compile`).
-/

namespace Router

/-! ## Classes as they are listed -/

/-- Classes in the order they are served: those that are listed, and the plain default class if no default class is.
Classes of one priority stand as they are listed. -/
structure TrafficClass.Served (listed classes : List TrafficClass) : Prop where
  perm : classes.Perm (listed ++ if listed.any isDefault then [] else [default])
  arranged : Arranged classes
  stable : ∀ priority, classes.filter (fun c => !c.isDefault && c.priority == priority) =
    listed.filter fun c => !c.isDefault && c.priority == priority

namespace Scheduler

variable {s : Scheduler} {listed : List TrafficClass}

/-- Where each name is listed once, the classes are those of the list, and the old default class if there is none in
it, under one order. -/
theorem classes_replace_of_nodup (h : s.Named) (now : Nat) (hlisted : (listed.map TrafficClass.name).Nodup) :
    (s.replace now listed).1.classes =
      Ranking.rank TrafficClass.ahead
        (listed ++ if listed.any TrafficClass.isDefault then [] else [s.fallback.definition]) := by
  have hdefinition : ClassQueue.definition ∘ s.carried now = id := funext (s.carried_definition now)
  rw [classes, queues_replace h, rankAll, Ranking.map_rank, assembled, firstByName_of_nodup hlisted, List.map_append,
    List.map_map, hdefinition, List.map_id]
  split <;> rfl

/-- A scheduler without classes of its own serves the classes that it is given. -/
theorem served_replace (born now : Nat) (hlisted : (listed.map TrafficClass.name).Nodup) :
    TrafficClass.Served listed ((new born).replace now listed).1.classes := by
  have hnamed := named_new born
  have hclasses := classes_replace_of_nodup hnamed now hlisted
  refine ⟨?_, ?_, fun priority => ?_⟩
  · rw [hclasses]
    exact Ranking.rank_perm _ _
  · exact arranged (hnamed.replace now listed) (inOrder_of_rankAll (queues_replace hnamed now listed))
  · rw [hclasses, Ranking.filter_rank TrafficClass.isRanking_ahead, List.filter_append]
    · split
      · exact List.append_nil _
      · exact List.append_nil _
    · -- Of two classes of one priority, none of them the default one, neither is ahead.
      intro a b ha hb
      simp only [Bool.and_eq_true, Bool.not_eq_true', beq_iff_eq] at ha hb
      rw [TrafficClass.ahead_of_others ha.1 hb.1, TrafficClass.before_eq_false_iff, ha.2, hb.2]
      exact Int32.le_refl _

end Scheduler

namespace Config

variable {α : Type} {c : Config} {s : Settings}

/-! ## Names of classes -/

theorem not_mem_of_classDefects {earlier : List String} {path : String} {e : ClassEntry}
    (h : e.defects earlier path = []) : e.name ∉ earlier := by
  intro hmem
  have hname := (List.append_eq_nil_iff.1 h).1
  rw [if_pos hmem] at hname
  split at hname
  · cases hname
  · cases hname

theorem classDefects_eq_nil_iff {entries : List ClassEntry} :
    classDefects entries = [] ↔ ∀ (i : Nat) (e : ClassEntry), entries[i]? = some e →
      e.defects ((entries.take i).map ClassEntry.name) (place "qos.classes" i) = [] :=
  @flatten_map_zipIdx_eq_nil_iff _ _ entries fun e i =>
    e.defects ((entries.take i).map ClassEntry.name) (place "qos.classes" i)

/-- The names of classes without defects are distinct. -/
theorem nodup_names_of_classDefects {entries : List ClassEntry} (h : classDefects entries = []) :
    (entries.map ClassEntry.name).Nodup := by
  refine List.pairwise_map.2 (List.pairwise_iff_getElem.2 fun i j hi hj hlt hsame => ?_)
  have hnew := not_mem_of_classDefects (classDefects_eq_nil_iff.1 h j entries[j] (List.getElem?_eq_getElem hj))
  refine hnew (List.mem_map.2 ⟨entries[i], ?_, hsame⟩)
  exact List.mem_take_iff_getElem.2 ⟨i, by omega, rfl⟩

theorem map_name_of_toClass {entries : List ClassEntry} {classes : List TrafficClass}
    (h : List.Forall₂ (fun e k => ClassEntry.toClass e = .ok k) entries classes) :
    classes.map TrafficClass.name = entries.map ClassEntry.name := by
  induction h with
  | nil => rfl
  | cons hk _ ih => rw [List.map_cons, List.map_cons, (ClassEntry.toClass_eq_ok_iff.1 hk).name, ih]

/-! ## Settings -/

theorem accept_eq_ok_iff {r : Except EntryFault α} {a : α} : accept r = .ok a ↔ r = .ok a :=
  mapError_eq_ok_iff

/-- Settings hold what a configuration says, each list of it converted entry by entry. -/
structure Fits (c : Config) (s : Settings) : Prop where
  addresses : List.Forall₂ (fun text a => address text = .ok a) c.plane.localAddresses s.localAddresses
  routes : List.Forall₂ (fun e route => RouteEntry.toRoute e = .ok route) c.routes s.snapshot.routes
  defaults : c.firewall.toDefaults = .ok s.snapshot.defaults
  rules : List.Forall₂ (fun e rule => FilterEntry.toRule e = .ok rule) c.firewall.rules s.snapshot.firewallRules
  nat : List.Forall₂ (fun e rule => NatEntry.toRule e = .ok rule) c.nat s.snapshot.natRules
  classes : List.Forall₂ (fun e k => ClassEntry.toClass e = .ok k) c.qos s.snapshot.qosClasses
  detector : c.ids.toConfig = .ok s.detector
  signatures : List.Forall₂ (fun e sig => SignatureEntry.toSignature e = .ok sig) c.ids.rules s.signatures

theorem fits_of_convert (h : c.convert = .ok s) : c.Fits s := by
  simp only [Config.convert, bind_eq_ok_iff, accept_eq_ok_iff] at h
  obtain ⟨defaults, hdefaults, rules, hrules, nat, hnat, classes, hclasses, routes, hroutes, detector, hdetector,
    signatures, hsignatures, addresses, haddresses, h⟩ := h
  cases h
  refine ⟨mapM_eq_ok_iff.1 haddresses, mapM_eq_ok_iff.1 hroutes, ?_, mapM_eq_ok_iff.1 hrules, mapM_eq_ok_iff.1 hnat,
    mapM_eq_ok_iff.1 hclasses, hdetector, mapM_eq_ok_iff.1 hsignatures⟩
  rw [hdefaults, Snapshot.defaults, List.map_map]
  exact congrArg _ ((congrArg PerChain.ofList (List.map_id _)).trans (PerChain.ofList_entries _)).symm

/-- What an accepted configuration becomes. -/
theorem fits_of_compile (h : c.compile = .ok s) : c.defects = [] ∧ c.Fits s := by
  unfold Config.compile at h
  split at h
  · rename_i hnone
    exact ⟨hnone, fits_of_convert h⟩
  · cases h

theorem classDefects_of_defects (h : c.defects = []) : classDefects c.qos = [] := by
  simp only [Config.defects, List.append_eq_nil_iff] at h
  exact h.1.2

/-! ## The router -/

/-- A router holds what a configuration says: its own addresses, the routes, the filter rules, the NAT rules and the
signatures one by one in the order of the file, the thresholds of the detector, and the classes in the order they are
served. -/
structure Held (c : Config) (pl : Plane) : Prop where
  addresses : List.Forall₂ (fun text a => address text = .ok a) c.plane.localAddresses pl.localAddresses
  routes : List.Forall₂ (fun e route => RouteEntry.toRoute e = .ok route) c.routes pl.routing.routes
  rules : List.Forall₂ (fun e rule => FilterEntry.toRule e = .ok rule) c.firewall.rules pl.firewall.rules
  nat : List.Forall₂ (fun e rule => NatEntry.toRule e = .ok rule) c.nat pl.nat.rules
  classes : ∃ listed, List.Forall₂ (fun e k => ClassEntry.toClass e = .ok k) c.qos listed ∧
    TrafficClass.Served listed pl.qos.classes
  detector : c.ids.toConfig = .ok pl.ids.config
  signatures : List.Forall₂ (fun e sig => SignatureEntry.toSignature e = .ok sig) c.ids.rules pl.ids.signatures

/-- A router that is built from an accepted configuration holds all of it. -/
theorem held_of_compile (h : c.compile = .ok s) (now : Nat) : c.Held (s.toPlane now) := by
  obtain ⟨hnone, hfits⟩ := fits_of_compile h
  have hnodup : (s.snapshot.qosClasses.map TrafficClass.name).Nodup := by
    rw [map_name_of_toClass hfits.classes]
    exact nodup_names_of_classDefects (classDefects_of_defects hnone)
  have hrules : (s.toPlane now).firewall.rules = s.snapshot.firewallRules := RuleList.rules_fresh _
  have hnat : (s.toPlane now).nat.rules = s.snapshot.natRules := RuleList.rules_fresh _
  refine ⟨hfits.addresses, hfits.routes, ?_, ?_, ⟨s.snapshot.qosClasses, hfits.classes, ?_⟩, hfits.detector,
    hfits.signatures⟩
  · rw [hrules]
    exact hfits.rules
  · rw [hnat]
    exact hfits.nat
  · exact Scheduler.served_replace now now hnodup

/-- A configuration with a rule and a signature, two classes of one priority, and one class that takes what they do not
between them. -/
def homeConfig : Config :=
  { officeConfig "web" "8000-8080" with
    firewall := ⟨[("FORWARD", "accept")],
      [⟨"input", "DROP", some "tcp", some "10.0.0.0/8", none, none, some "22", some "wan0", none⟩]⟩
    qos := [⟨"mail", some "TCP", none, some "25", none, none, none, none⟩,
      ⟨"default", none, none, none, some 512, some 7, none, none⟩,
      ⟨"web", some " tcp ", none, some "80", none, none, none, none⟩,
      ⟨"voice", some "udp", none, none, none, some 10, none, some "head"⟩]
    ids := { DetectorSection.default with
      rules := [⟨"shell", some "tcp", none, some "192.168.1.0/24", none, none, some "/bin/sh", some "drop"⟩] } }

/-- The rule and the signature are held as they are written. The default class comes last in spite of its priority, and
keeps its rate. -/
theorem held_home :
    ∃ s, homeConfig.compile = .ok s ∧ homeConfig.Held (s.toPlane 0) ∧
      (s.toPlane 0).firewall.rules = [{
        chain := .input, verdict := .drop, protocol := some .tcp, source := some (.around (.v4 0x0A000000) 8),
        destination := none, sourcePort := none, destinationPort := some ⟨22, 22⟩, inInterface := some "wan0",
        outInterface := none }] ∧
      (s.toPlane 0).ids.signatures = [{
        name := "shell", protocol := some .tcp, source := none, destination := some (.around (.v4 0xC0A80100) 24),
        sourcePort := none, destinationPort := none, payloadContains := some "/bin/sh", response := .drop }] ∧
      (s.toPlane 0).qos.classes.map (fun k => (k.name, k.rateKbps)) =
        [("voice", 0), ("mail", 0), ("web", 0), ("default", 512)] := by
  have hsome : ∃ s, homeConfig.compile = .ok s ∧
      (s.toPlane 0).firewall.rules = _ ∧ (s.toPlane 0).ids.signatures = _ ∧
      (s.toPlane 0).qos.classes.map (fun k => (k.name, k.rateKbps)) =
        [("voice", 0), ("mail", 0), ("web", 0), ("default", 512)] := ⟨_, rfl, rfl, rfl, by decide⟩
  obtain ⟨s, hcompile, hrules, hsignatures, hclasses⟩ := hsome
  exact ⟨s, hcompile, held_of_compile hcompile 0, hrules, hsignatures, hclasses⟩

end Config

end Router
