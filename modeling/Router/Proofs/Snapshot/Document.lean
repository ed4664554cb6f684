import Router.Proofs.Document.Reading
import Router.Proofs.Toml.Document
import Router.Snapshot.Document

/-!
# Snapshots read back

A library that writes snapshots as TOML and reads them is lawful (`TomlLibrary.Lawful`) if what it writes is laid out
as the lists of the snapshot, and if it reads a snapshot from every text whose lists show it (`Snapshot.ShownBy`). The
lists of a snapshot can be held by a document (`Snapshot.consistent_recordLists`) and show the snapshot again, provided
that no port range is empty (`Snapshot.shownBy_recordLists`). Main statement: with a lawful library a snapshot without
empty port ranges that can be written is read from its text as it was (`Snapshot.ofToml_toToml`).

The library at hand is lawful (`TomlLibrary.lawful_plain`). Of all numbers only the rates and the lengths of classes can
be too large for a document, so with it they decide which snapshots can be written (`Snapshot.succeeds_toToml_iff`).
-/

namespace Router

open Document

/-! ## Records that a document can hold -/

/-- Fields that stand under names out of a list, in their order, with no integer too small. -/
structure Among (fields : List (String × Scalar)) (names : List String) : Prop where
  sublist : (fields.map Prod.fst).Sublist names
  fits : ∀ field ∈ fields, Toml.fits field.2

section

variable {fields fields' : List (String × Scalar)} {names names' : List String}

theorem Among.append (h : Among fields names) (h' : Among fields' names') :
    Among (fields ++ fields') (names ++ names') where
  sublist := by
    rw [List.map_append]
    exact h.sublist.append h'.sublist
  fits := List.forall_mem_append.2 ⟨h.fits, h'.fits⟩

theorem Among.isRecord (h : Among fields names) (hnodup : names.Nodup)
    (hbare : ∀ name ∈ names, Toml.isBare name = true) : Toml.IsRecord fields where
  nodup := h.sublist.nodup hnodup
  bare _ hfield := hbare _ (h.sublist.subset (List.mem_map_of_mem hfield))
  fits := h.fits

theorem among_textField (name s : String) : Among (textField name s) [name] where
  sublist := List.Sublist.refl _
  fits := List.forall_mem_singleton.2 trivial

theorem among_integerField (name : String) {n : Int} (h : -(Toml.maxInteger + 1 : Int) ≤ n) :
    Among (integerField name n) [name] where
  sublist := List.Sublist.refl _
  fits := List.forall_mem_singleton.2 h

theorem among_natural (name : String) (n : Nat) : Among (integerField name n) [name] :=
  among_integerField name (Int.le_trans (by decide) (Int.natCast_nonneg n))

theorem among_elim {α : Type} {write : α → List (String × Scalar)} (a : Option α)
    (h : ∀ a, Among (write a) names) : Among (a.elim [] write) names := by
  cases a with
  | none => exact ⟨List.nil_sublist _, List.forall_mem_nil _⟩
  | some a => exact h a

theorem among_textField? {α : Type} (name : String) (a : Option α) (text : α → String) :
    Among (textField? name a text) [name] :=
  among_elim a fun a => among_textField name (text a)

theorem among_keywordField? {α : Type} [Text.Keyword α] (name : String) (a : Option α) :
    Among (keywordField? name a) [name] :=
  among_textField? name a Text.Keyword.spelling

end

/-! ## Records of a snapshot -/

theorem isRecord_defaultPolicy (d : DefaultPolicy) : Toml.IsRecord (Record.fields d) := by
  have h := among_textField "chain" d.chain.name
  have h := h.append (among_textField "action" d.verdict.name)
  exact h.isRecord (by decide) (by decide)

theorem isRecord_filterRule (r : FilterRule) : Toml.IsRecord (Record.fields r) := by
  have h := among_textField "chain" r.chain.name
  have h := h.append (among_textField "action" r.verdict.name)
  have h := h.append (among_keywordField? "protocol" r.protocol)
  have h := h.append (among_textField? "src" r.source toString)
  have h := h.append (among_textField? "dst" r.destination toString)
  have h := h.append (among_textField? "src_port" r.sourcePort toString)
  have h := h.append (among_textField? "dst_port" r.destinationPort toString)
  have h := h.append (among_textField? "in_interface" r.inInterface id)
  have h := h.append (among_textField? "out_interface" r.outInterface id)
  exact h.isRecord (by decide) (by decide)

theorem isRecord_natRule (r : NatRule) : Toml.IsRecord (Record.fields r) := by
  have h := among_textField "type" r.kind.name
  have h := h.append (among_textField? "src" r.source toString)
  have h := h.append (among_textField? "dst" r.destination toString)
  have h := h.append (among_textField? "src_port" r.sourcePort toString)
  have h := h.append (among_textField? "dst_port" r.destinationPort toString)
  have h := h.append (among_textField "to_ip" (toString r.toAddress))
  have h := h.append (among_elim r.toPort fun port => among_natural "to_port" port.toNat)
  exact h.isRecord (by decide) (by decide)

theorem isRecord_trafficClass (c : TrafficClass) : Toml.IsRecord (Record.fields c) := by
  have h := among_textField "name" c.name
  have h := h.append (among_keywordField? "protocol" c.protocol)
  have h := h.append (among_textField? "src_port" c.sourcePort toString)
  have h := h.append (among_textField? "dst_port" c.destinationPort toString)
  have h := h.append (among_natural "rate_kbps" c.rateKbps.toNat)
  have h := h.append (among_integerField "priority" (Int.le_trans (by decide) c.priority.le_toInt))
  have h := h.append (among_natural "max_queue" c.maxQueue.toNat)
  have h := h.append (among_textField "drop_policy" c.dropPolicy.name)
  exact h.isRecord (by decide) (by decide)

theorem isRecord_route (r : Route) : Toml.IsRecord (Record.fields r) := by
  have h := among_textField "destination" (toString r.destination)
  have h := h.append (among_textField? "gateway" r.gateway toString)
  have h := h.append (among_textField "interface" r.interface)
  have h := h.append (among_natural "metric" r.metric.toNat)
  exact h.isRecord (by decide) (by decide)

/-! ## Records that can be written -/

/-- Fields that can be written. -/
def AllWritable (fields : List (String × Scalar)) : Prop :=
  ∀ field ∈ fields, Toml.writable field.2

theorem allWritable_append {fields fields' : List (String × Scalar)} :
    AllWritable (fields ++ fields') ↔ AllWritable fields ∧ AllWritable fields' :=
  List.forall_mem_append

theorem allWritable_textField (name s : String) : AllWritable (textField name s) :=
  List.forall_mem_singleton.2 trivial

theorem allWritable_integerField_iff {name : String} {n : Int} :
    AllWritable (integerField name n) ↔ n ≤ Toml.maxInteger :=
  List.forall_mem_singleton

theorem allWritable_elim {α : Type} {write : α → List (String × Scalar)} (a : Option α)
    (h : ∀ a, AllWritable (write a)) : AllWritable (a.elim [] write) := by
  cases a with
  | none => exact List.forall_mem_nil _
  | some a => exact h a

theorem allWritable_textField? {α : Type} (name : String) (a : Option α) (text : α → String) :
    AllWritable (textField? name a text) :=
  allWritable_elim a fun a => allWritable_textField name (text a)

theorem allWritable_keywordField? {α : Type} [Text.Keyword α] (name : String) (a : Option α) :
    AllWritable (keywordField? name a) :=
  allWritable_textField? name a Text.Keyword.spelling

theorem allWritable_natural {name : String} {n : Nat} (h : n ≤ Toml.maxInteger) :
    AllWritable (integerField name n) :=
  allWritable_integerField_iff.2 (Int.ofNat_le.2 h)

theorem allWritable_defaultPolicy (d : DefaultPolicy) : AllWritable (Record.fields d) :=
  allWritable_append.2 ⟨allWritable_textField _ _, allWritable_textField _ _⟩

theorem allWritable_filterRule (r : FilterRule) : AllWritable (Record.fields r) := by
  simp only [Record.fields, allWritable_append, allWritable_textField, allWritable_textField?,
    allWritable_keywordField?, and_self]

theorem allWritable_natRule (r : NatRule) : AllWritable (Record.fields r) := by
  have hport : ∀ port : UInt16, AllWritable (integerField "to_port" port.toNat) := fun port =>
    allWritable_natural (Nat.le_trans (Nat.le_of_lt port.toNat_lt) (by decide))
  simp only [Record.fields, allWritable_append, allWritable_textField, allWritable_textField?,
    allWritable_elim r.toPort hport, and_self]

theorem allWritable_route (r : Route) : AllWritable (Record.fields r) := by
  have hmetric : AllWritable (integerField "metric" r.metric.toNat) :=
    allWritable_natural (Nat.le_trans (Nat.le_of_lt r.metric.toNat_lt) (by decide))
  simp only [Record.fields, allWritable_append, allWritable_textField, allWritable_textField?, hmetric, and_self]

/-- A class can be written exactly if its rate and its length are no words of more than 63 bits. -/
theorem allWritable_trafficClass_iff {c : TrafficClass} :
    AllWritable (Record.fields c) ↔
      c.rateKbps.toNat ≤ Toml.maxInteger ∧ c.maxQueue.toNat ≤ Toml.maxInteger := by
  have hpriority : c.priority.toInt ≤ Toml.maxInteger := Int.le_trans (Int.le_of_lt c.priority.toInt_lt) (by decide)
  simp only [Record.fields, allWritable_append, allWritable_textField, allWritable_textField?,
    allWritable_keywordField?, allWritable_integerField_iff, Int.ofNat_le, hpriority, true_and, and_true]

/-! ## What documents show -/

/-- The fields of a default. -/
structure DefaultPolicy.ShownBy (d : DefaultPolicy) (fields : List (String × Scalar)) : Prop where
  chain : Required (Parses Text.Keyword.spelled?) d.chain (lookup fields "chain")
  verdict : Required (Parses Text.Keyword.spelled?) d.verdict (lookup fields "action")

theorem DefaultPolicy.shownBy_fields (d : DefaultPolicy) : d.ShownBy (Record.fields d) where
  chain := .of_eq (by simp [Record.fields]; rfl) (parses_keyword d.chain)
  verdict := .of_eq (by simp [Record.fields]; rfl) (parses_keyword d.verdict)

theorem DefaultPolicy.yields {d : DefaultPolicy} {dialect : Dialect} {fields : List (String × Scalar)}
    (h : d.ShownBy fields) : Yields dialect Record.reader (entriesOf fields) d := by
  refine .bind (.bind rfl (reads_keyword.required h.chain)) ?_
  refine .bind (.bind rfl (reads_keyword.required h.verdict)) ?_
  exact .pure d

/-- The lists of a snapshot by name. Each may be missing. -/
structure Snapshot.ShownBy (s : Snapshot) (list? : String → Option (List (List (String × Scalar)))) : Prop where
  firewallDefaults : OrElse [] (List.Forall₂ DefaultPolicy.ShownBy) s.firewallDefaults (list? "firewall_defaults")
  firewallRules : OrElse [] (List.Forall₂ FilterRule.ShownBy) s.firewallRules (list? "firewall_rules")
  natRules : OrElse [] (List.Forall₂ NatRule.ShownBy) s.natRules (list? "nat_rules")
  qosClasses : OrElse [] (List.Forall₂ TrafficClass.ShownBy) s.qosClasses (list? "qos_classes")
  routes : OrElse [] (List.Forall₂ Route.ShownBy) s.routes (list? "routes")

/-- A library that writes TOML documents and reads them: what it writes for a snapshot is laid out as the lists of the
snapshot, and a text laid out in this way, without anything defined twice, is read as the snapshot that its lists
show. -/
structure TomlLibrary.Lawful (library : TomlLibrary) : Prop where
  emits {s : Snapshot} {text : String} (h : library.write s = .ok text) :
    Toml.Layout (Toml.Outline.ofLists s.recordLists).clauses text.toList
  reads {s : Snapshot} {o : Toml.Outline} {text : String} (htext : Toml.Layout o.clauses text.toList)
    (ho : o.Consistent) (hs : s.ShownBy o.list?) : library.read text = .ok s

namespace Snapshot

variable {s : Snapshot}

/-! ## Snapshots written -/

theorem nodup_recordLists (s : Snapshot) : (s.recordLists.map Toml.RecordList.name).Nodup := by
  have hnames : s.recordLists.map Toml.RecordList.name =
      ["firewall_defaults", "firewall_rules", "nat_rules", "qos_classes", "routes"] := rfl
  rw [hnames]
  decide

theorem areLists_recordLists (s : Snapshot) : Toml.AreLists s.recordLists where
  nodup := s.nodup_recordLists
  bare := by
    have hbare : ∀ name ∈ ["firewall_defaults", "firewall_rules", "nat_rules", "qos_classes", "routes"],
        Toml.isBare name = true := by decide
    exact fun l hl => hbare _ (List.mem_map_of_mem hl)
  records := by
    simp only [recordLists, List.forall_mem_cons, List.forall_mem_map]
    exact ⟨fun d _ => isRecord_defaultPolicy d, fun r _ => isRecord_filterRule r, fun r _ => isRecord_natRule r,
      fun c _ => isRecord_trafficClass c, fun r _ => isRecord_route r, List.forall_mem_nil _⟩

theorem consistent_recordLists (s : Snapshot) : (Toml.Outline.ofLists s.recordLists).Consistent :=
  Toml.Outline.consistent_ofLists s.nodup_recordLists fun l hl fields hfields =>
    (s.areLists_recordLists.records l hl fields hfields).nodup

/-- The port ranges in all rules. -/
def portRanges (s : Snapshot) : List PortRange :=
  (s.firewallRules.flatMap fun r => r.sourcePort.toList ++ r.destinationPort.toList) ++
    (s.natRules.flatMap fun r => r.sourcePort.toList ++ r.destinationPort.toList) ++
    s.qosClasses.flatMap fun c => c.sourcePort.toList ++ c.destinationPort.toList

theorem ports_of_flatMap {α : Type} {items : List α} {source destination : α → Option PortRange}
    (h : ∀ ports ∈ items.flatMap fun a => (source a).toList ++ (destination a).toList, ports.first ≤ ports.last) :
    ∀ a ∈ items,
      (∀ ports ∈ source a, ports.first ≤ ports.last) ∧ ∀ ports ∈ destination a, ports.first ≤ ports.last := by
  intro a ha
  have hports : ∀ ports ∈ (source a).toList ++ (destination a).toList, ports.first ≤ ports.last :=
    fun ports hports => h ports (List.mem_flatMap.2 ⟨a, ha, hports⟩)
  obtain ⟨hsource, hdestination⟩ := List.forall_mem_append.1 hports
  exact ⟨fun ports hp => hsource ports (Option.mem_toList.2 hp),
    fun ports hp => hdestination ports (Option.mem_toList.2 hp)⟩

theorem forall₂_fields {α : Type} [Record α] {ShownBy : α → List (String × Scalar) → Prop} {items : List α}
    (h : ∀ a ∈ items, ShownBy a (Record.fields a)) : List.Forall₂ ShownBy items (items.map Record.fields) :=
  List.forall₂_map_right_iff.2 (List.forall₂_same.2 h)

/-- The lists of a snapshot show it. -/
theorem shownBy_recordLists (h : ∀ ports ∈ s.portRanges, ports.first ≤ ports.last) :
    s.ShownBy (Toml.Outline.ofLists s.recordLists).list? := by
  obtain ⟨hrules, hclasses⟩ := List.forall_mem_append.1 h
  obtain ⟨hfirewall, hnat⟩ := List.forall_mem_append.1 hrules
  have hfirewall := ports_of_flatMap hfirewall
  have hnat := ports_of_flatMap hnat
  have hclasses := ports_of_flatMap hclasses
  have hlist : ∀ l ∈ s.recordLists, (Toml.Outline.ofLists s.recordLists).list? l.name = some l.records :=
    fun l hl => Toml.Outline.list?_ofLists s.nodup_recordLists hl
  simp only [recordLists, List.forall_mem_cons] at hlist
  obtain ⟨hdefaultList, hfirewallList, hnatList, hclassList, hrouteList, -⟩ := hlist
  exact {
    firewallDefaults := .of_eq hdefaultList (forall₂_fields fun d _ => d.shownBy_fields)
    firewallRules := .of_eq hfirewallList (forall₂_fields fun r hr =>
      FilterRule.shownBy_fields (hfirewall r hr).1 (hfirewall r hr).2)
    natRules := .of_eq hnatList (forall₂_fields fun r hr => NatRule.shownBy_fields (hnat r hr).1 (hnat r hr).2)
    qosClasses := .of_eq hclassList (forall₂_fields fun c hc =>
      TrafficClass.shownBy_fields (hclasses c hc).1 (hclasses c hc).2)
    routes := .of_eq hrouteList (forall₂_fields fun r _ => r.shownBy_fields) }

/-! ## Snapshots read -/

/-- Records are read one by one. -/
theorem list?_of_forall₂ {α : Type} [Record α] {dialect : Dialect} {ShownBy : α → List (String × Scalar) → Prop}
    (hread : ∀ {a fields}, ShownBy a fields → Yields dialect Record.reader (entriesOf fields) a) {items : List α}
    {records : List (List (String × Scalar))} (h : List.Forall₂ ShownBy items records) :
    Value.list? (Record.ofValue? dialect) (.list (records.map Toml.recordValue)) = some items := by
  rw [Value.list?]
  induction h with
  | nil => rfl
  | @cons a fields items records hfirst _ ih =>
    have hvalue : Record.ofValue? dialect (Toml.recordValue fields) = some a := (hread hfirst).run
    rw [List.map_cons, List.mapM_cons, ih, hvalue]
    rfl

/-- In a table with the lists of a snapshot its reader finds the snapshot. -/
theorem yields {list? : String → Option (List (List (String × Scalar)))} (h : s.ShownBy list?) {dialect : Dialect}
    {entries : List (String × Value)}
    (hentries : ∀ name, datum? entries name = (list? name).map fun records => .list (records.map Toml.recordValue)) :
    Yields dialect reader entries s := by
  refine .bind rfl ?_
  refine .bind (.orElse h.firewallDefaults (hentries _) fun _ _ => list?_of_forall₂ DefaultPolicy.yields) ?_
  refine .bind (.orElse h.firewallRules (hentries _) fun _ _ => list?_of_forall₂ FilterRule.yields) ?_
  refine .bind (.orElse h.natRules (hentries _) fun _ _ => list?_of_forall₂ NatRule.yields) ?_
  refine .bind (.orElse h.qosClasses (hentries _) fun _ _ => list?_of_forall₂ TrafficClass.yields) ?_
  refine .bind (.orElse h.routes (hentries _) fun _ _ => list?_of_forall₂ Route.yields) ?_
  exact .pure s

/-- With the library at hand, a snapshot can be written exactly if no rate and no length of a class is too large. -/
theorem succeeds_toToml_iff (s : Snapshot) :
    Succeeds (s.toToml .plain) ↔
      ∀ c ∈ s.qosClasses, c.rateKbps.toNat ≤ Toml.maxInteger ∧ c.maxQueue.toNat ≤ Toml.maxInteger := by
  have hwrite : Succeeds (s.toToml .plain) ↔ Succeeds (Toml.write s.recordLists) := by
    simp only [Succeeds, toToml, mapError_eq_ok_iff, TomlLibrary.plain]
  rw [hwrite, Toml.succeeds_write_iff]
  simp only [recordLists, List.forall_mem_cons, List.forall_mem_map]
  constructor
  · rintro ⟨-, -, -, hclasses, -⟩ c hc
    exact allWritable_trafficClass_iff.1 (hclasses c hc)
  · intro hclasses
    exact ⟨fun d _ => allWritable_defaultPolicy d, fun r _ => allWritable_filterRule r,
      fun r _ => allWritable_natRule r, fun c hc => allWritable_trafficClass_iff.2 (hclasses c hc),
      fun r _ => allWritable_route r, List.forall_mem_nil _⟩

end Snapshot

/-! ## Libraries -/

/-- The library at hand is lawful. -/
theorem TomlLibrary.lawful_plain : plain.Lawful where
  emits {s _} h := Toml.layout_write s.areLists_recordLists h
  reads {s o text} htext ho hs := by
    obtain ⟨entries, hread, hentries⟩ := Toml.read?_of_layout htext ho
    have hyields : Yields .toml Snapshot.reader entries s := Snapshot.yields hs hentries
    have hvalue : (Toml.read? text).bind (Snapshot.ofValue? .toml) = some s := by
      rw [hread, Option.bind_some, Snapshot.ofValue?, hyields.run]
    rw [plain]
    dsimp only
    rw [hvalue]

namespace Snapshot

variable {s : Snapshot}

/-- With a lawful library, a snapshot whose port ranges have a port each is read from its text as it was. -/
theorem ofToml_toToml {library : TomlLibrary} (hlibrary : library.Lawful)
    (hports : ∀ ports ∈ s.portRanges, ports.first ≤ ports.last) {text : String}
    (htext : s.toToml library = .ok text) : ofToml library text = .ok s := by
  have hlayout := hlibrary.emits (mapError_eq_ok_iff.1 htext)
  exact mapError_eq_ok_iff.2 (hlibrary.reads hlayout s.consistent_recordLists (shownBy_recordLists hports))

/-- A snapshot with an empty list, names that need each kind of quotes, and a class below the default one. -/
def quoted : Snapshot where
  firewallDefaults := [⟨.forward, .drop⟩]
  firewallRules := [{
    chain := .forward, verdict := .accept, protocol := some .tcp, source := none,
    destination := some (.around (.v4 0xC0A80700) 24), sourcePort := none, destinationPort := some ⟨80, 443⟩,
    inInterface := some "wan \"0\"", outInterface := none }]
  natRules := []
  qosClasses := [{ TrafficClass.plain "voice '''\n\t\"\"\"" (-3) with maxQueue := 40 }]
  routes := [.connected (.around (.v4 0xC0A80700) 24) "lan\\0"]

/-- With the library at hand it can be written and is read as it was. -/
theorem ofToml_toToml_quoted :
    TomlLibrary.plain.Lawful ∧ (∀ ports ∈ quoted.portRanges, ports.first ≤ ports.last) ∧
      ∃ text, quoted.toToml .plain = .ok text ∧ ofToml .plain text = .ok quoted := by
  have hports : ∀ ports ∈ quoted.portRanges, ports.first ≤ ports.last := by decide
  have hwritten : (quoted.toToml .plain).toOption.isSome = true := by decide
  cases htext : quoted.toToml .plain with
  | error e => rw [htext] at hwritten; cases hwritten
  | ok text => exact ⟨TomlLibrary.lawful_plain, hports, text, rfl, ofToml_toToml TomlLibrary.lawful_plain hports htext⟩

end Snapshot

end Router
