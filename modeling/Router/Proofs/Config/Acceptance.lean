import Router.Config.Settings
import Router.Proofs.Outcome

/-!
# What a configuration is accepted for

A configuration is looked through for defects before it is converted. A conversion leaves no defect exactly if it
succeeds (`entryDefects_eq_nil_iff`), and there is a look at each entry of each list (`forall_mem_of_eachPlace`,
`forall_mem_of_classDefects`), so without defects every entry converts (`converts_of_defects`). Main statement: a
configuration becomes settings exactly if it has no defects, and otherwise all of them are reported in order
(`compile_iff_sound`).
-/

namespace Router

namespace Config

variable {α β : Type} {path : String}

/-! ## Conversions -/

theorem succeeds_accept {r : Except EntryFault α} (h : Succeeds r) : Succeeds (accept r) := by
  obtain ⟨a, rfl⟩ := h
  exact .ok a

/-! ## Defects of conversions -/

theorem entryDefects_eq_nil_iff {r : Except EntryFault α} : entryDefects path r = [] ↔ Succeeds r := by
  cases r with
  | ok a => exact iff_of_true rfl (.ok a)
  | error fault => exact iff_of_false (List.cons_ne_nil _ _) (not_succeeds_error fault)

/-- Nothing is found on a list exactly if nothing is found on any element where it stands. -/
theorem flatten_map_zipIdx_eq_nil_iff {items : List α} {check : α → Nat → List β} :
    (items.zipIdx.map fun (a, i) => check a i).flatten = [] ↔ ∀ i a, items[i]? = some a → check a i = [] := by
  simp only [List.flatten_eq_nil_iff, List.forall_mem_map, Prod.forall, List.mem_zipIdx_iff_getElem?]
  exact forall_comm

/-- Where nothing is found on a list, each element has what nothing found on it tells. -/
theorem forall_mem_of_flatten {items : List α} (check : α → Nat → List β) {p : α → Prop}
    (h : (items.zipIdx.map fun (a, i) => check a i).flatten = []) (hp : ∀ a i, check a i = [] → p a) :
    ∀ a ∈ items, p a := by
  intro a ha
  obtain ⟨i, hi⟩ := List.getElem?_of_mem ha
  exact hp a i (flatten_map_zipIdx_eq_nil_iff.1 h i a hi)

theorem forall_mem_of_eachPlace {list : String} {items : List α} {check : String → α → List β} {p : α → Prop}
    (h : eachPlace list items check = []) (hp : ∀ path a, check path a = [] → p a) : ∀ a ∈ items, p a :=
  forall_mem_of_flatten (fun a i => check (place list i) a) h fun a _ => hp _ a

theorem forall_mem_of_classDefects {classes : List ClassEntry} (h : classDefects classes = []) :
    ∀ e ∈ classes, Succeeds e.toClass :=
  forall_mem_of_flatten
    (fun (e : ClassEntry) i => e.defects ((classes.take i).map ClassEntry.name) (place "qos.classes" i)) h
    fun _ _ he => entryDefects_eq_nil_iff.1 (List.append_eq_nil_iff.1 he).2

/-! ## Configurations -/

variable {c : Config}

/-- Every entry of a configuration converts. -/
structure Converts (c : Config) : Prop where
  addresses : Succeeds c.plane.toAddresses
  routes : ∀ e ∈ c.routes, Succeeds e.toRoute
  defaults : Succeeds c.firewall.toDefaults
  rules : ∀ e ∈ c.firewall.rules, Succeeds e.toRule
  nat : ∀ e ∈ c.nat, Succeeds e.toRule
  classes : ∀ e ∈ c.qos, Succeeds e.toClass
  detector : Succeeds c.ids.toConfig
  signatures : ∀ e ∈ c.ids.rules, Succeeds e.toSignature

/-- What does not convert is a defect. -/
theorem converts_of_defects (h : c.defects = []) : c.Converts := by
  simp only [Config.defects, PlaneSection.defects, FilterSection.defects, DetectorSection.defects,
    List.append_eq_nil_iff, entryDefects_eq_nil_iff] at h
  obtain ⟨⟨⟨⟨⟨⟨⟨haddresses, -⟩, -⟩, hroutes⟩, hdefaults, hrules⟩, hnat⟩, hclasses⟩, ⟨-, hdetector⟩, hsignatures⟩ := h
  refine ⟨haddresses, ?_, hdefaults, ?_, ?_, ?_, hdetector, ?_⟩
  · exact forall_mem_of_eachPlace hroutes fun path e he => entryDefects_eq_nil_iff.1 (List.append_eq_nil_iff.1 he).1
  · exact forall_mem_of_eachPlace hrules fun path e => entryDefects_eq_nil_iff.1
  · exact forall_mem_of_eachPlace hnat fun path e => entryDefects_eq_nil_iff.1
  · exact forall_mem_of_classDefects hclasses
  · exact forall_mem_of_eachPlace hsignatures fun path e => entryDefects_eq_nil_iff.1

/-- Where every entry converts, the configuration does. -/
theorem Converts.convert (h : c.Converts) : Succeeds c.convert := by
  obtain ⟨defaults, hdefaults⟩ := succeeds_accept h.defaults
  obtain ⟨rules, hrules⟩ := succeeds_accept (succeeds_mapM_iff.2 h.rules)
  obtain ⟨nat, hnat⟩ := succeeds_accept (succeeds_mapM_iff.2 h.nat)
  obtain ⟨classes, hclasses⟩ := succeeds_accept (succeeds_mapM_iff.2 h.classes)
  obtain ⟨routes, hroutes⟩ := succeeds_accept (succeeds_mapM_iff.2 h.routes)
  obtain ⟨detector, hdetector⟩ := succeeds_accept h.detector
  obtain ⟨signatures, hsignatures⟩ := succeeds_accept (succeeds_mapM_iff.2 h.signatures)
  obtain ⟨addresses, haddresses⟩ := succeeds_accept h.addresses
  rw [Config.convert, hdefaults, hrules, hnat, hclasses, hroutes, hdetector, hsignatures, haddresses]
  exact .ok _

/-- A configuration becomes settings exactly if it has no defects, and then every entry of it converts. Otherwise it is
refused for all of its defects, whose messages are joined in order. -/
theorem compile_iff_sound (c : Config) :
    (Succeeds c.compile ↔ c.defects = []) ∧ (c.defects = [] → c.Converts ∧ c.compile = c.convert) ∧
      (c.defects ≠ [] → ∃ fault, c.compile = .error (.config fault) ∧
        fault.message = "; ".intercalate (c.defects.map Defect.message)) := by
  by_cases h : c.defects = []
  · have hcompile : c.compile = c.convert := if_pos h
    have hconverts := converts_of_defects h
    refine ⟨iff_of_true ?_ h, fun _ => ⟨hconverts, hcompile⟩, absurd h⟩
    rw [hcompile]
    exact hconverts.convert
  · have hcompile : c.compile = .error (.config (.entries (c.defects.map Defect.message))) := if_neg h
    refine ⟨iff_of_false ?_ h, fun hnone => absurd hnone h, fun _ => ⟨_, hcompile, rfl⟩⟩
    rw [hcompile]
    exact not_succeeds_error _

/-! ## Two classes -/

/-- A router for an office, with a class for telephones and another one. -/
def officeConfig (name ports : String) : Config where
  logging := ⟨"info", "pretty"⟩
  plane := { PlaneSection.default with localAddresses := [" 192.168.1.1"] }
  routes := [⟨"0.0.0.0/0", some "203.0.113.1", "wan0", some 100⟩]
  firewall := ⟨[("FORWARD", "accept")], []⟩
  nat := [⟨"snat", some "192.168.1.0/24", none, none, none, "203.0.113.10", none⟩]
  qos := [⟨"voice", some "udp", none, none, some 256, some 10, none, some "head"⟩,
    ⟨name, none, none, some ports, none, none, none, none⟩]
  ids := .default

/-- A second class of a name and ports in the wrong order are two defects of one entry, reported together. -/
theorem compile_office :
    Succeeds (officeConfig "web" "8000-8080").compile ∧
      ∃ fault, (officeConfig "voice" "8080-8000").compile = .error (.config fault) ∧
        fault.message = "qos.classes[1]: duplicate class name 'voice'; " ++
          "qos.classes[1]: invalid port range '8080-8000'" := by
  have hnone : (officeConfig "web" "8000-8080").defects = [] := by decide
  have htwo : (officeConfig "voice" "8080-8000").defects = [.duplicateName "qos.classes[1]" "voice",
      .entry "qos.classes[1]" (.portRange "8080-8000")] := by decide
  have hsome : (officeConfig "voice" "8080-8000").defects ≠ [] := by
    rw [htwo]
    exact List.cons_ne_nil _ _
  obtain ⟨fault, hcompile, hmessage⟩ := (compile_iff_sound _).2.2 hsome
  refine ⟨(compile_iff_sound _).1.2 hnone, fault, hcompile, ?_⟩
  rw [hmessage, htwo]
  decide

end Config

end Router
