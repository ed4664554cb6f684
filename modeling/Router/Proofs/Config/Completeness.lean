import Mathlib.Data.List.Perm.Subperm
import Mathlib.Data.List.Nodup
import Router.Proofs.Config.Acceptance

/-!
# Which entries of a configuration are reported

An entry that does not convert by itself is due a defect of its own, at its place (`refusedOf`).

- A list that is looked through entry by entry has one for each of them (`filter_flatten_zipIdx`).
- The addresses of the router itself and the defaults of the filter are converted as a whole, so that only the first of
  them that does not convert has one (`entryDefects_mapM`).
- No two defects of entries are at one place (`nodup_paths`).

Main statement: these are the defects of entries and no others, so each entry that does not convert has its own exactly
if at most one address and at most one default are among them (`refusals_reported`). Behind a bad address another one is
not reported (`second_address_unreported`).
-/

namespace Router

open Router.Text

variable {α β ε : Type}

namespace Config

/-! ## Entries that do not convert -/

/-- The fault of a conversion, if it fails. -/
def fault? : Except ε α → Option ε
  | .ok _ => none
  | .error fault => some fault

/-- Whether an entry by itself does not convert. -/
def refuses (convert : α → Except ε β) (a : α) : Bool :=
  (fault? (convert a)).isSome

/-- The chain and the verdict of an entry of the table of defaults. -/
def readDefault (entry : String × String) : Except EntryFault (Chain × Verdict) := do
  let chain ← keyword entry.1
  let verdict ← keyword entry.2
  return (chain, verdict)

/-- The number of entries of a configuration that do not convert by themselves. -/
def refusedCount (c : Config) : Nat :=
  c.plane.localAddresses.countP (refuses address) + c.routes.countP (refuses RouteEntry.toRoute) +
    c.firewall.defaults.countP (refuses readDefault) + c.firewall.rules.countP (refuses FilterEntry.toRule) +
    c.nat.countP (refuses NatEntry.toRule) + c.qos.countP (refuses ClassEntry.toClass) +
    c.ids.rules.countP (refuses SignatureEntry.toSignature)

/-- What is due to the entries of a list: for each that does not convert a defect with its fault, at its place. -/
def refusedOf (path : Nat → String) (convert : α → Except EntryFault β) (items : List α) : List Defect :=
  items.zipIdx.filterMap fun (a, i) => (fault? (convert a)).map (.entry (path i))

/-- What is due to the entries of a configuration, list by list in the order of the file, of the two lists that are
converted as a whole only what `keep` leaves. -/
def refusalTable (keep : List Defect → List Defect) (c : Config) : List (String × List Defect) :=
  [("dataplane.local_addresses",
      keep (refusedOf (fun _ => "dataplane.local_addresses") address c.plane.localAddresses)),
    ("routes", refusedOf (place "routes") RouteEntry.toRoute c.routes),
    ("firewall.defaults", keep (refusedOf (fun _ => "firewall.defaults") readDefault c.firewall.defaults)),
    ("firewall.rules", refusedOf (place "firewall.rules") FilterEntry.toRule c.firewall.rules),
    ("nat.rules", refusedOf (place "nat.rules") NatEntry.toRule c.nat),
    ("qos.classes", refusedOf (place "qos.classes") ClassEntry.toClass c.qos),
    ("ids.rules", refusedOf (place "ids.rules") SignatureEntry.toSignature c.ids.rules)]

/-- The same in one list; where `keep` leaves everything, it is all that is due. -/
def refusals (keep : List Defect → List Defect) (c : Config) : List Defect :=
  (c.refusalTable keep).flatMap Prod.snd

/-- Whether a defect is that of an entry of a list, and not that of the thresholds of the detector. -/
def Defect.isRefusal : Defect → Bool
  | .entry path _ => path ≠ "ids"
  | _ => false

/-- The place of a defect in the file. -/
def Defect.path : Defect → String
  | .entry path _ => path
  | .zero path => path
  | .noInterface path => path
  | .noName path => path
  | .duplicateName path _ => path

variable {path : Nat → String} {convert : α → Except EntryFault β} {items : List α} {c : Config}

theorem length_refusedOf : (refusedOf path convert items).length = items.countP (refuses convert) := by
  calc (refusedOf path convert items).length
    _ = items.zipIdx.countP (refuses convert ∘ Prod.fst) := by
      simp only [refusedOf, List.length_filterMap_eq_countP, Option.isSome_map]
      rfl
    _ = items.countP (refuses convert) := by rw [← List.countP_map, List.zipIdx_map_fst]

theorem length_refusals : (c.refusals id).length = c.refusedCount := by
  simp only [refusals, refusalTable, List.flatMap_cons, List.flatMap_nil, List.length_append, List.length_nil,
    length_refusedOf, id_eq, refusedCount]
  omega

theorem exists_of_mem_refusedOf {d : Defect} (h : d ∈ refusedOf path convert items) :
    ∃ i fault, d = .entry (path i) fault := by
  obtain ⟨⟨a, i⟩, -, hd⟩ := List.mem_filterMap.1 h
  obtain ⟨fault, -, rfl⟩ := Option.map_eq_some_iff.1 hd
  exact ⟨i, fault, rfl⟩

/-! ## Lists that are converted as a whole -/

theorem entryDefects_eq (path : String) (r : Except EntryFault α) :
    entryDefects path r = ((fault? r).map (Defect.entry path)).toList := by
  cases r <;> rfl

theorem entryDefects_map (path : String) (f : α → β) (r : Except EntryFault α) :
    entryDefects path (r.map f) = entryDefects path r := by
  cases r <;> rfl

theorem refusedOf_const (path : String) :
    refusedOf (fun _ => path) convert items = items.flatMap fun a => entryDefects path (convert a) := by
  simp only [entryDefects_eq]
  rw [← List.filterMap_eq_flatMap_toList]
  conv_rhs => rw [← List.zipIdx_map_fst 0 items, List.filterMap_map]
  rfl

/-- Of a list that is converted as a whole, only the first entry that does not convert is reported. -/
theorem entryDefects_mapM (path : String) :
    entryDefects path (items.mapM convert) = (refusedOf (fun _ => path) convert items).take 1 := by
  rw [refusedOf_const]
  induction items with
  | nil => rfl
  | cons a rest ih =>
    rw [List.mapM_cons, List.flatMap_cons]
    cases convert a with
    | error fault => rfl
    | ok b =>
      refine Eq.trans ?_ ih
      cases rest.mapM convert <;> rfl

theorem toDefaults_eq (s : FilterSection) : s.toDefaults = (s.defaults.mapM readDefault).map PerChain.ofList := by
  show (s.defaults.mapM readDefault >>= fun entries => .ok (PerChain.ofList entries)) = _
  cases s.defaults.mapM readDefault <;> rfl

theorem entryDefects_toDefaults (path : String) (s : FilterSection) :
    entryDefects path s.toDefaults = (refusedOf (fun _ => path) readDefault s.defaults).take 1 := by
  rw [toDefaults_eq, entryDefects_map, entryDefects_mapM]

/-! ## Places -/

theorem toList_place (list : String) (i : Nat) :
    (place list i).toList = list.toList ++ '[' :: (Decimal.chars i ++ [']']) := by
  have htext : place list i = list ++ "[" ++ i.repr ++ "]" := rfl
  rw [htext, String.toList_append, String.toList_append, String.toList_append, Decimal.toList_repr]
  simp

theorem place_inj {list : String} {i j : Nat} (h : place list i = place list j) : i = j := by
  have hlist := congrArg String.toList h
  rw [toList_place, toList_place, List.append_cancel_left_eq, List.cons.injEq, List.append_cancel_right_eq] at hlist
  rw [← Decimal.value_chars i, hlist.2, Decimal.value_chars]

/-- What stands in front of the index in the place of an entry: the name of its list. -/
def listOf (path : String) : Option (List Char) :=
  (fields '[' path.toList).head?

theorem listOf_name {name : String} (hname : '[' ∉ name.toList) : listOf name = some name.toList := by
  rw [listOf, fields_of_not_mem hname]
  rfl

theorem listOf_place {name : String} (hname : '[' ∉ name.toList) (i : Nat) :
    listOf (place name i) = some name.toList := by
  rw [listOf, toList_place, fields_append_sep hname]
  rfl

theorem place_ne {name : String} (hname : '[' ∉ name.toList) (list : String) (i : Nat) : place list i ≠ name := by
  rintro rfl
  refine hname ?_
  rw [toList_place]
  exact List.mem_append_right _ List.mem_cons_self

/-- Defects of one list, each at a place of its own. -/
structure SetApart (name : String) (defects : List Defect) : Prop where
  inList : ∀ d ∈ defects, listOf d.path = some name.toList
  nodup : (defects.map Defect.path).Nodup

theorem setApart_place {name : String} (hname : '[' ∉ name.toList) :
    SetApart name (refusedOf (place name) convert items) := by
  refine ⟨fun d hd => ?_, ?_⟩
  · obtain ⟨i, fault, rfl⟩ := exists_of_mem_refusedOf hd
    exact listOf_place hname i
  · -- Two entries of a list have different indices, and so different places.
    have hindices : items.zipIdx.Pairwise fun x y => x.2 ≠ y.2 := by
      refine List.pairwise_map.1 ?_
      rw [List.zipIdx_map_snd]
      exact List.nodup_range'
    refine List.pairwise_map.2 (List.pairwise_filterMap.2 (hindices.imp ?_))
    rintro ⟨a, i⟩ ⟨b, j⟩ hne d hd d' hd' hsame
    obtain ⟨fault, -, rfl⟩ := Option.map_eq_some_iff.1 hd
    obtain ⟨fault', -, rfl⟩ := Option.map_eq_some_iff.1 hd'
    exact hne (place_inj hsame)

theorem setApart_take_one {name : String} (hname : '[' ∉ name.toList) :
    SetApart name ((refusedOf (fun _ => name) convert items).take 1) := by
  refine ⟨fun d hd => ?_, ?_⟩
  · obtain ⟨_, fault, rfl⟩ := exists_of_mem_refusedOf (List.mem_of_mem_take hd)
    exact listOf_name hname
  · rw [List.map_take, List.take_one]
    exact Option.toList_nodup _

/-- Lists with different names, each with its places apart, have no place twice. -/
theorem nodup_of_setApart {table : List (String × List Defect)} (hnames : (table.map Prod.fst).Nodup)
    (h : ∀ row ∈ table, SetApart row.1 row.2) : ((table.flatMap Prod.snd).map Defect.path).Nodup := by
  rw [List.map_flatMap, List.nodup_flatMap]
  refine ⟨fun row hrow => (h row hrow).nodup, ?_⟩
  refine (List.pairwise_map.1 hnames).imp_of_mem fun {row other} hrow hother hne path hpath hpath' => hne ?_
  obtain ⟨d, hd, rfl⟩ := List.mem_map.1 hpath
  obtain ⟨d', hd', hsame⟩ := List.mem_map.1 hpath'
  have hlists := ((h row hrow).inList d hd).symm.trans (hsame ▸ (h other hother).inList d' hd')
  exact String.toList_inj.1 (Option.some.inj hlists)

theorem nodup_paths (c : Config) : ((c.refusals (List.take 1)).map Defect.path).Nodup := by
  refine nodup_of_setApart (by simp [refusalTable]) ?_
  simp only [refusalTable, List.forall_mem_cons, List.not_mem_nil, false_imp_iff, implies_true, and_true]
  exact ⟨setApart_take_one (by decide), setApart_place (by decide), setApart_take_one (by decide),
    setApart_place (by decide), setApart_place (by decide), setApart_place (by decide), setApart_place (by decide)⟩

/-! ## Defects of entries -/

theorem isRefusal_of_mem_refusedOf (hpath : ∀ i, path i ≠ "ids") {d : Defect} (h : d ∈ refusedOf path convert items) :
    d.isRefusal = true := by
  obtain ⟨i, fault, rfl⟩ := exists_of_mem_refusedOf h
  exact decide_eq_true (hpath i)

theorem isRefusal_of_mem_refusals {d : Defect} (h : d ∈ c.refusals id) : d.isRefusal = true := by
  have hplace (list : String) (i : Nat) : place list i ≠ "ids" := place_ne (by decide) list i
  simp only [refusals, refusalTable, List.flatMap_cons, List.flatMap_nil, List.append_nil, List.mem_append, id_eq] at h
  obtain h | h | h | h | h | h | h := h
  · exact isRefusal_of_mem_refusedOf (fun _ => by decide) h
  · exact isRefusal_of_mem_refusedOf (hplace _) h
  · exact isRefusal_of_mem_refusedOf (fun _ => by decide) h
  · exact isRefusal_of_mem_refusedOf (hplace _) h
  · exact isRefusal_of_mem_refusedOf (hplace _) h
  · exact isRefusal_of_mem_refusedOf (hplace _) h
  · exact isRefusal_of_mem_refusedOf (hplace _) h

theorem filter_entryDefects {path : String} (hpath : path ≠ "ids") (r : Except EntryFault α) :
    (entryDefects path r).filter Defect.isRefusal = entryDefects path r := by
  cases r with
  | ok a => rfl
  | error fault => exact List.filter_cons_of_pos (decide_eq_true hpath)

/-- Where a look at an entry finds no refusal but that of its conversion, a look at each entry finds all that do not
convert. -/
theorem filter_flatten_zipIdx {list : String} (check : α → Nat → List Defect)
    (h : ∀ a i, (check a i).filter Defect.isRefusal = entryDefects (place list i) (convert a)) :
    ((items.zipIdx.map fun (a, i) => check a i).flatten).filter Defect.isRefusal =
      refusedOf (place list) convert items := by
  simp only [List.filter_flatten, List.map_map, refusedOf, List.filterMap_eq_flatMap_toList, List.flatMap_def]
  congr 1
  refine List.map_congr_left fun (a, i) _ => ?_
  rw [← entryDefects_eq]
  exact h a i

theorem filter_eachPlace {list : String} :
    (eachPlace list items fun path a => entryDefects path (convert a)).filter Defect.isRefusal =
      refusedOf (place list) convert items :=
  filter_flatten_zipIdx (fun a i => entryDefects (place list i) (convert a)) fun _ i =>
    filter_entryDefects (place_ne (by decide) list i) _

theorem filter_routeDefects (routes : List RouteEntry) :
    (eachPlace "routes" routes RouteEntry.defects).filter Defect.isRefusal =
      refusedOf (place "routes") RouteEntry.toRoute routes := by
  refine filter_flatten_zipIdx (fun e i => RouteEntry.defects (place "routes" i) e) fun e i => ?_
  rw [RouteEntry.defects, List.filter_append, filter_entryDefects (place_ne (by decide) "routes" i)]
  split
  · exact List.append_nil _
  · exact List.append_nil _

theorem filter_classDefects (classes : List ClassEntry) :
    (classDefects classes).filter Defect.isRefusal = refusedOf (place "qos.classes") ClassEntry.toClass classes := by
  refine filter_flatten_zipIdx (fun (e : ClassEntry) i =>
    e.defects ((classes.take i).map ClassEntry.name) (place "qos.classes" i)) fun e i => ?_
  rw [ClassEntry.defects, List.filter_append, filter_entryDefects (place_ne (by decide) "qos.classes" i)]
  split
  · rfl
  · split <;> rfl

theorem filter_zero (given : Option UInt64) (path : String) :
    (if given = some 0 then [.zero path] else []).filter Defect.isRefusal = [] := by
  split <;> rfl

theorem filter_detectorDefects (s : DetectorSection) :
    s.defects.filter Defect.isRefusal = refusedOf (place "ids.rules") SignatureEntry.toSignature s.rules := by
  have hthresholds : (entryDefects "ids" s.toConfig).filter Defect.isRefusal = [] := by
    cases s.toConfig <;> rfl
  rw [DetectorSection.defects, List.filter_append, List.filter_append, filter_zero, hthresholds, filter_eachPlace]
  rfl

/-- What is reported of the entries, in order. -/
theorem filter_defects (c : Config) : c.defects.filter Defect.isRefusal = c.refusals (List.take 1) := by
  have hplane : c.plane.defects.filter Defect.isRefusal =
      (refusedOf (fun _ => "dataplane.local_addresses") address c.plane.localAddresses).take 1 := by
    rw [PlaneSection.defects, List.filter_append, List.filter_append, filter_zero, filter_zero, List.append_nil,
      List.append_nil, filter_entryDefects (by decide), PlaneSection.toAddresses, entryDefects_mapM]
  have hfilter : c.firewall.defects.filter Defect.isRefusal =
      (refusedOf (fun _ => "firewall.defaults") readDefault c.firewall.defaults).take 1 ++
        refusedOf (place "firewall.rules") FilterEntry.toRule c.firewall.rules := by
    rw [FilterSection.defects, List.filter_append, filter_eachPlace, filter_entryDefects (by decide),
      entryDefects_toDefaults]
  simp only [Config.defects, List.filter_append, hplane, filter_routeDefects, hfilter, filter_eachPlace,
    filter_classDefects, filter_detectorDefects, refusals, refusalTable, List.flatMap_cons, List.flatMap_nil,
    List.append_assoc, List.append_nil]

/-! ## Main statement -/

/-- What is reported of the entries falls short of what is due to them by the addresses and the defaults behind the first
ones that do not convert. -/
theorem length_reported (c : Config) :
    (c.refusals (List.take 1)).length + (c.plane.localAddresses.countP (refuses address) - 1) +
      (c.firewall.defaults.countP (refuses readDefault) - 1) = c.refusedCount := by
  simp only [refusals, refusalTable, List.flatMap_cons, List.flatMap_nil, List.length_append, List.length_nil,
    List.length_take, length_refusedOf, refusedCount]
  omega

theorem take_refusedOf (h : items.countP (refuses convert) ≤ 1) :
    (refusedOf path convert items).take 1 = refusedOf path convert items := by
  refine List.take_of_length_le ?_
  rwa [length_refusedOf]

theorem refusals_take_one (haddresses : c.plane.localAddresses.countP (refuses address) ≤ 1)
    (hdefaults : c.firewall.defaults.countP (refuses readDefault) ≤ 1) : c.refusals (List.take 1) = c.refusals id := by
  simp only [refusals, refusalTable, take_refusedOf haddresses, take_refusedOf hdefaults, id_eq]

/-- Every entry that does not convert is due one defect. Of the routes, the rules, the classes and the signatures each
such entry is reported, at a place of its own, and of the addresses and the defaults the first one. So each of them has
a defect of its own exactly if at most one address and at most one default are among them, and there are no fewer
defects than such entries exactly if those without a defect are made up for by defects that are not of entries. -/
theorem refusals_reported (c : Config) :
    (c.refusals id).length = c.refusedCount ∧
      c.defects.filter Defect.isRefusal = c.refusals (List.take 1) ∧
      ((c.refusals (List.take 1)).map Defect.path).Nodup ∧
      ((c.refusals id).Subperm c.defects ↔
        c.plane.localAddresses.countP (refuses address) ≤ 1 ∧ c.firewall.defaults.countP (refuses readDefault) ≤ 1) ∧
      (c.refusedCount ≤ c.defects.length ↔
        (c.plane.localAddresses.countP (refuses address) - 1) +
          (c.firewall.defaults.countP (refuses readDefault) - 1) ≤ c.defects.countP fun d => ¬ d.isRefusal) := by
  have hreported := length_reported c
  refine ⟨length_refusals, filter_defects c, nodup_paths c, ⟨fun h => ?_, fun ⟨haddresses, hdefaults⟩ => ?_⟩, ?_⟩
  · -- Only what is reported of the entries can stand for what is due to them, and the numbers of both are known.
    have hall : (c.refusals id).filter Defect.isRefusal = c.refusals id :=
      List.filter_eq_self.2 fun d hd => isRefusal_of_mem_refusals hd
    have hlength := (h.filter Defect.isRefusal).length_le
    rw [hall, filter_defects, length_refusals] at hlength
    omega
  · rw [← refusals_take_one haddresses hdefaults, ← filter_defects]
    exact List.filter_sublist.subperm
  · rw [List.length_eq_countP_add_countP Defect.isRefusal, List.countP_eq_length_filter, filter_defects]
    omega

/-- A configuration that gives two names where addresses are expected. -/
def namesForAddresses : Config where
  logging := ⟨"info", "pretty"⟩
  plane := { PlaneSection.default with localAddresses := ["router", "gateway"] }
  routes := []
  firewall := ⟨[], []⟩
  nat := []
  qos := []
  ids := .default

/-- Two addresses that do not convert are one defect. -/
theorem second_address_unreported : ¬ ∀ c : Config, c.refusedCount ≤ c.defects.length := by
  intro hall
  have hcount : namesForAddresses.refusedCount = 2 := by decide
  have hdefects : namesForAddresses.defects = [.entry "dataplane.local_addresses" (.address "router")] := by decide
  have hle := hall namesForAddresses
  rw [hcount, hdefects] at hle
  exact absurd hle (by decide)

end Config

end Router
