import Router.Proofs.Toml.Lines

/-!
# Documents written and read

What is written for lists of records is laid out as the outline of these lists (`layout_write`). The other way, a text
laid out as an outline where nothing is defined twice is read as a table with the lists of the outline, whatever the
order of the records (`read?_of_layout`). `Holds root o` tells what stands under each name while the clauses of the
outline are entered; a name of a list (`Holds.emptyList`), a header (`Holds.header`) and a field (`Holds.field`) each
change what stands under one name.
-/

namespace Router.Toml

open Router.Document

/-! ## Writing -/

/-- A record that a document can hold: its names are told apart and need no quotes, and no integer is too small. -/
structure IsRecord (fields : List (String × Scalar)) : Prop where
  nodup : (fields.map Prod.fst).Nodup
  bare : ∀ field ∈ fields, isBare field.1 = true
  fits : ∀ field ∈ fields, fits field.2

/-- Lists of records that a document can hold. -/
structure AreLists (lists : List RecordList) : Prop where
  nodup : (lists.map RecordList.name).Nodup
  bare : ∀ l ∈ lists, isBare l.name = true
  records : ∀ l ∈ lists, ∀ fields ∈ l.records, IsRecord fields

variable {α : Type}

/-- What is written piece by piece is laid out piece by piece. -/
theorem layouts_mapM {write : α → Except String (List Char)} {clauses : α → List Clause} {items : List α}
    {texts : List (List Char)} (h : items.mapM write = .ok texts)
    (hlayout : ∀ a ∈ items, ∀ text, write a = .ok text → Layout (clauses a) text) :
    List.Forall₂ Layout (items.map clauses) texts := by
  have hwritten := (List.forall₂_and_left items texts).2 ⟨hlayout, mapM_eq_ok_iff.1 h⟩
  exact List.forall₂_map_left_iff.2 (hwritten.imp fun _ text ha => ha.1 text ha.2)

theorem layout_block {name : String} (hname : isBare name = true) {fields : List (String × Scalar)}
    (hfields : IsRecord fields) {text : List Char} (h : block name fields = .ok text) :
    Layout (Outline.recordClauses (name, fields)) text := by
  rw [block] at h
  cases hlines : fields.mapM fieldLine with
  | error e => rw [hlines] at h; cases h
  | ok lines =>
    rw [hlines] at h
    cases h
    have hlayouts : List.Forall₂ Layout (fields.map fun field => [.field field.1 field.2]) lines :=
      layouts_mapM hlines fun field hfield line hline =>
        layout_fieldLine (hfields.bare field hfield) (hfields.fits field hfield) hline
    have hclauses : (fields.map fun field => [Clause.field field.1 field.2]).flatten =
        fields.map fun field => .field field.1 field.2 := by
      rw [← List.flatMap_def, List.map_eq_flatMap]
    have hblock := (Layout.single (.header hname)).append (.flatten hlayouts)
    rw [hclauses] at hblock
    simpa [Outline.recordClauses] using hblock

variable {lists : List RecordList}

theorem layout_emptyLines (h : ∀ l ∈ lists, isBare l.name = true) :
    Layout ((Outline.ofLists lists).empty.map .emptyList) (emptyLines lists) := by
  have hline : ∀ l ∈ lists, Layout [.emptyList l.name] (l.name.toList ++ [' ', '=', ' ', '[', ']', '\n']) := by
    intro l hl
    have hsingle := Layout.single (.emptyList (h l hl))
    simpa using hsingle
  have hlayouts : ∀ ls : List RecordList, (∀ l ∈ ls, l ∈ lists) →
      Layout ((ls.map RecordList.name).map .emptyList)
        (ls.flatMap fun l => l.name.toList ++ [' ', '=', ' ', '[', ']', '\n']) := by
    intro ls hls
    induction ls with
    | nil => exact .nil
    | cons l rest ih =>
      obtain ⟨hl, hrest⟩ := List.forall_mem_cons.1 hls
      exact (hline l hl).append (ih hrest)
  exact hlayouts _ fun l hl => List.mem_of_mem_filter hl

theorem layouts_blocks (h : AreLists lists) {texts : List (List Char)} (hblocks : blocks lists = .ok texts) :
    List.Forall₂ Layout ((Outline.ofLists lists).records.map Outline.recordClauses) texts := by
  refine layouts_mapM hblocks fun r hr text htext => ?_
  obtain ⟨l, hl, hname, hfields⟩ := Outline.mem_records_ofLists.1 hr
  exact layout_block (hname ▸ h.bare l hl) (h.records l hl r.2 hfields) htext

/-- What is written for lists is laid out as their outline. -/
theorem layout_write (h : AreLists lists) {text : String} (hwrite : write lists = .ok text) :
    Layout (Outline.ofLists lists).clauses text.toList := by
  rw [write] at hwrite
  cases hblocks : blocks lists with
  | error e => rw [hblocks] at hwrite; cases hwrite
  | ok texts =>
    rw [hblocks] at hwrite
    cases hwrite
    rw [String.toList_ofList, Outline.clauses, List.flatMap_def]
    exact Layout.intersperse (.cons (layout_emptyLines h.bare) (layouts_blocks h hblocks))

/-- A document can be written exactly if no integer in it is too large. -/
theorem succeeds_write_iff :
    Succeeds (write lists) ↔ ∀ l ∈ lists, ∀ fields ∈ l.records, ∀ field ∈ fields, writable field.2 := by
  have hblock : ∀ name fields, Succeeds (block name fields) ↔ ∀ field ∈ fields, writable field.2 := by
    intro name fields
    simp only [block, fieldLine, succeeds_map_iff, succeeds_mapM_iff, succeeds_scalarChars_iff]
  simp only [write, blocks, succeeds_map_iff, succeeds_mapM_iff, List.forall_mem_flatMap, List.forall_mem_map, hblock]

/-! ## Entering clauses -/

section

variable {s : Section} {name other : String}

/-- The entry with another node, if it has the name. -/
def replaced (name : String) (node : Node) (e : String × Node) : String × Node :=
  if e.1 = name then (name, node) else e

theorem find?_replaced_self (name : String) (node : Node) (entries : List (String × Node)) :
    ((entries.map (replaced name node)).find? fun e => e.1 = name).map Prod.snd =
      (entries.find? fun e => e.1 = name).map fun _ => node := by
  induction entries with
  | nil => rfl
  | cons e rest ih =>
    rw [List.map_cons, replaced]
    by_cases he : e.1 = name
    · rw [if_pos he, List.find?_cons_of_pos (by simp), List.find?_cons_of_pos (by simpa using he)]
      rfl
    · rw [if_neg he, List.find?_cons_of_neg (by simpa using he), List.find?_cons_of_neg (by simpa using he), ih]

theorem find?_replaced_of_ne (h : other ≠ name) (node : Node) (entries : List (String × Node)) :
    (entries.map (replaced name node)).find? (fun e => e.1 = other) = entries.find? fun e => e.1 = other := by
  induction entries with
  | nil => rfl
  | cons e rest ih =>
    rw [List.map_cons, replaced]
    by_cases he : e.1 = name
    · rw [if_pos he, List.find?_cons_of_neg (by simpa using h.symm),
        List.find?_cons_of_neg (by simpa [he] using h.symm), ih]
    · rw [if_neg he, List.find?_cons, List.find?_cons, ih]

theorem Section.get?_set (s : Section) (name : String) (node : Node) (other : String) :
    (s.set name node).get? other = if other = name then some node else s.get? other := by
  by_cases hany : (s.entries.any fun e => e.1 = name) = true
  · have hset : (s.set name node).entries = s.entries.map (replaced name node) := by
      rw [set, if_pos hany]
      rfl
    rw [get?, hset]
    split
    · rename_i heq
      obtain ⟨e, he⟩ := Option.isSome_iff_exists.1 (List.find?_isSome.2 (List.any_eq_true.1 hany))
      rw [heq, find?_replaced_self, he, Option.map_some]
    · rename_i hne
      rw [find?_replaced_of_ne hne, get?]
  · have hnone : (s.entries.find? fun e => e.1 = name) = none :=
      List.find?_eq_none.2 fun e he hname => hany (List.any_eq_true.2 ⟨e, he, hname⟩)
    rw [set, if_neg hany, get?, List.find?_append]
    split
    · rename_i heq
      rw [heq, hnone]
      simp
    · rename_i hne
      rw [get?]
      simp [Ne.symm hne]

theorem Section.insert_of_get?_eq_none (hdotted : s.dotted = false) (h : s.get? name = none) (v : Value) :
    s.insert [] name v = some (s.set name (.leaf v)) := by
  rw [insert, modify, hdotted, h]
  rfl

end

/-- The entries of a record. -/
def leaves (fields : List (String × Scalar)) : List (String × Node) :=
  fields.map fun field => (field.1, .leaf field.2.value)

/-- What stands under the name of a list: a list in brackets without records, or the tables of its records. -/
def listNode : List (List (String × Scalar)) → Node
  | [] => .leaf (.list [])
  | records => .tables (records.map leaves)

theorem listNode_of_ne_nil {records : List (List (String × Scalar))} (h : records ≠ []) :
    listNode records = .tables (records.map leaves) := by
  cases records with
  | nil => exact absurd rfl h
  | cons => rfl

theorem listNode_append (records : List (List (String × Scalar))) (fields : List (String × Scalar)) :
    listNode (records ++ [fields]) = .tables (records.map leaves ++ [leaves fields]) := by
  rw [listNode_of_ne_nil (by simp), List.map_append, List.map_singleton]

/-- A document while it is read has the lists of an outline. -/
structure Holds (root : Section) (o : Outline) : Prop where
  dotted : root.dotted = false
  get? (name : String) : root.get? name = (o.list? name).map listNode

namespace Outline

variable {empty : List String} {records : List (String × List (String × Scalar))} {name other : String}
  {fields : List (String × Scalar)}

theorem list?_record_of_ne (h : other ≠ name) :
    list? ⟨empty, records ++ [(name, fields)]⟩ other = list? ⟨empty, records⟩ other := by
  have hnone : under other [(name, fields)] = [] := under_of_forall_ne (by simpa using h.symm)
  rw [list?, list?, under_append, hnone, List.append_nil]

theorem list?_record (h : name ∉ empty) :
    list? ⟨empty, records ++ [(name, fields)]⟩ name = some (under name records ++ [fields]) := by
  rw [list?, under_append, under_record, if_neg h, if_neg (by simp)]

theorem list?_of_not_mem (h : name ∉ empty) :
    list? ⟨empty, records⟩ name = if under name records = [] then none else some (under name records) := by
  rw [list?, if_neg h]

theorem list?_emptyList (name other : String) :
    list? ⟨empty ++ [name], []⟩ other = if other = name then some [] else list? ⟨empty, []⟩ other := by
  by_cases h : other = name <;> simp [list?, under, h]

end Outline

namespace Holds

variable {root : Section} {o o' : Outline} {empty : List String}
  {records : List (String × List (String × Scalar))} {name : String} {fields : List (String × Scalar)}

theorem explicit_nil : Holds (.explicit []) ⟨[], []⟩ where
  dotted := rfl
  get? _ := rfl

/-- Something new under one name. -/
theorem set (h : Holds root o) {list : List (List (String × Scalar))} (hname : o'.list? name = some list)
    (hothers : ∀ other, other ≠ name → o'.list? other = o.list? other) : Holds (root.set name (listNode list)) o' where
  dotted := by
    rw [Section.set]
    split <;> exact h.dotted
  get? other := by
    rw [Section.get?_set]
    split
    · rename_i heq
      rw [heq, hname, Option.map_some]
    · rename_i hne
      rw [h.get?, hothers other hne]

/-- The name of a list without records. -/
theorem emptyList (h : Holds root ⟨empty, []⟩) (hname : name ∉ empty) :
    ∃ root', root.insert [] name (.list []) = some root' ∧ Holds root' ⟨empty ++ [name], []⟩ := by
  have hnone : root.get? name = none := by
    rw [h.get?, Outline.list?_of_not_mem hname]
    rfl
  have hset : Holds (root.set name (listNode [])) ⟨empty ++ [name], []⟩ :=
    h.set (by rw [Outline.list?_emptyList, if_pos rfl]) fun other hother => by
      rw [Outline.list?_emptyList, if_neg hother]
  exact ⟨_, Section.insert_of_get?_eq_none h.dotted hnone _, hset⟩

/-- A header starts one more record. -/
theorem header (h : Holds root ⟨empty, records⟩) (hname : name ∉ empty) :
    ∃ root', root.openHeader .repeated [] name = some root' ∧ Holds root' ⟨empty, records ++ [(name, [])]⟩ := by
  have hset : Holds (root.set name (listNode (Outline.under name records ++ [[]])))
      ⟨empty, records ++ [(name, [])]⟩ :=
    h.set (Outline.list?_record hname) fun _ => Outline.list?_record_of_ne
  refine ⟨_, ?_, hset⟩
  rw [Section.openHeader, Section.modify, h.get?, Outline.list?_of_not_mem hname, listNode_append]
  by_cases hunder : Outline.under name records = []
  · rw [if_pos hunder, hunder]
    rfl
  · rw [if_neg hunder, Option.map_some, listNode_of_ne_nil hunder]
    rfl

theorem insert_leaves {field : String × Scalar} (hfield : field.1 ∉ fields.map Prod.fst) :
    (Section.explicit (leaves fields)).insert [] field.1 field.2.value =
      some (.explicit (leaves (fields ++ [field]))) := by
  have hall : ∀ e ∈ leaves fields, e.1 ≠ field.1 := by
    intro e he heq
    obtain ⟨other, hother, rfl⟩ := List.mem_map.1 he
    exact hfield (List.mem_map.2 ⟨other, hother, heq⟩)
  have hnone : (Section.explicit (leaves fields)).get? field.1 = none := by
    rw [Section.get?, Section.explicit, List.find?_eq_none.2 fun e he => by simpa using hall e he, Option.map_none]
  have hany : ¬ ((leaves fields).any fun e => e.1 = field.1) = true := by
    rw [List.any_eq_true]
    rintro ⟨e, he, heq⟩
    exact hall e he (of_decide_eq_true heq)
  rw [Section.insert_of_get?_eq_none rfl hnone, Section.set, Section.explicit, if_neg hany, leaves, leaves,
    List.map_append]
  rfl

/-- A field goes into the last record. -/
theorem field (h : Holds root ⟨empty, records ++ [(name, fields)]⟩) (hname : name ∉ empty) {field : String × Scalar}
    (hfield : field.1 ∉ fields.map Prod.fst) :
    ∃ root', root.modify false (fun t => t.insert [] field.1 field.2.value) [name] = some root' ∧
      Holds root' ⟨empty, records ++ [(name, fields ++ [field])]⟩ := by
  have hset : Holds (root.set name (listNode (Outline.under name records ++ [fields ++ [field]])))
      ⟨empty, records ++ [(name, fields ++ [field])]⟩ :=
    h.set (Outline.list?_record hname) fun other hother => by
      rw [Outline.list?_record_of_ne hother, Outline.list?_record_of_ne hother]
  refine ⟨_, ?_, hset⟩
  rw [Section.modify, h.get?, Outline.list?_record hname, Option.map_some, listNode_append]
  dsimp only
  rw [List.getLast?_concat]
  dsimp only
  rw [Section.modify, insert_leaves hfield, List.dropLast_concat, listNode_append]
  rfl

end Holds

/-- Clauses that take a document and the path of its last header to others. -/
def Enters (root : Section) (here : List String) (clauses : List Clause) (root' : Section) (here' : List String) :
    Prop :=
  ∀ others, enter? root here (clauses.map Clause.statement ++ others) = enter? root' here' others

section

variable {root root' : Section} {here here' : List String} {o : Outline} {empty names : List String}
  {records more : List (String × List (String × Scalar))} {name : String} {fields rest : List (String × Scalar)}

theorem Enters.append {clauses clauses' : List Clause} {root'' : Section} {here'' : List String}
    (h : Enters root here clauses root' here') (h' : Enters root' here' clauses' root'' here'') :
    Enters root here (clauses ++ clauses') root'' here'' := fun others => by
  rw [List.map_append, List.append_assoc, h, h']

theorem enters_empty (h : Holds root ⟨empty, []⟩) (hnames : (empty ++ names).Nodup) :
    ∃ root', Enters root [] (names.map .emptyList) root' [] ∧ Holds root' ⟨empty ++ names, []⟩ := by
  induction names generalizing root empty with
  | nil =>
    rw [List.append_nil]
    exact ⟨root, fun _ => rfl, h⟩
  | cons name names ih =>
    have hnew : name ∉ empty := fun hmem => (List.disjoint_of_nodup_append hnames) hmem List.mem_cons_self
    obtain ⟨root', hinsert, hroot'⟩ := h.emptyList hnew
    obtain ⟨root'', henters, hroot''⟩ := ih hroot' (by rwa [List.append_assoc])
    rw [List.append_assoc] at hroot''
    refine ⟨root'', fun others => ?_, hroot''⟩
    rw [List.map_cons, List.map_cons, List.cons_append, Clause.statement, enter?, Section.modify, hinsert]
    exact henters others

/-- The fields below a header go into the last record. -/
theorem enters_fields (h : Holds root ⟨empty, records ++ [(name, fields)]⟩) (hname : name ∉ empty)
    (hfields : (fields.map Prod.fst ++ rest.map Prod.fst).Nodup) :
    ∃ root', Enters root [name] (rest.map fun field => .field field.1 field.2) root' [name] ∧
      Holds root' ⟨empty, records ++ [(name, fields ++ rest)]⟩ := by
  induction rest generalizing root fields with
  | nil =>
    rw [List.append_nil]
    exact ⟨root, fun _ => rfl, h⟩
  | cons field rest ih =>
    have hnew : field.1 ∉ fields.map Prod.fst := fun hmem =>
      (List.disjoint_of_nodup_append hfields) hmem List.mem_cons_self
    obtain ⟨root', hinsert, hroot'⟩ := h.field hname hnew
    obtain ⟨root'', henters, hroot''⟩ := ih hroot' (by simpa using hfields)
    rw [List.append_assoc] at hroot''
    refine ⟨root'', fun others => ?_, hroot''⟩
    rw [List.map_cons, List.map_cons, List.cons_append, Clause.statement, enter?, hinsert]
    exact henters others

theorem enters_record (h : Holds root ⟨empty, records⟩) (hname : name ∉ empty) (here : List String)
    (hfields : (fields.map Prod.fst).Nodup) :
    ∃ root', Enters root here (Outline.recordClauses (name, fields)) root' [name] ∧
      Holds root' ⟨empty, records ++ [(name, fields)]⟩ := by
  obtain ⟨root', hheader, hroot'⟩ := h.header hname
  have hnodup : (([] : List (String × Scalar)).map Prod.fst ++ fields.map Prod.fst).Nodup := hfields
  obtain ⟨root'', henters, hroot''⟩ := enters_fields hroot' hname hnodup
  refine ⟨root'', fun others => ?_, hroot''⟩
  rw [Outline.recordClauses, List.map_cons, List.cons_append, Clause.statement, enter?, hheader]
  exact henters others

theorem enters_records (h : Holds root ⟨empty, records⟩) (hapart : ∀ r ∈ more, r.1 ∉ empty)
    (hfields : ∀ r ∈ more, (r.2.map Prod.fst).Nodup) (here : List String) :
    ∃ root' here', Enters root here (more.flatMap Outline.recordClauses) root' here' ∧
      Holds root' ⟨empty, records ++ more⟩ := by
  induction more generalizing root records here with
  | nil =>
    rw [List.append_nil]
    exact ⟨root, here, fun _ => rfl, h⟩
  | cons r more ih =>
    obtain ⟨hr, hapart⟩ := List.forall_mem_cons.1 hapart
    obtain ⟨hnodup, hfields⟩ := List.forall_mem_cons.1 hfields
    obtain ⟨root', hfirst, hroot'⟩ := enters_record h hr here hnodup
    obtain ⟨root'', here', hothers, hroot''⟩ := ih hroot' hapart hfields [r.1]
    rw [List.append_assoc] at hroot''
    exact ⟨root'', here', hfirst.append hothers, hroot''⟩

/-- All clauses of a document can be entered, and then it has the lists of its outline. -/
theorem exists_enter?_clauses (h : o.Consistent) :
    ∃ root, enter? (.explicit []) [] (o.clauses.map Clause.statement) = some root ∧ Holds root o := by
  have hnodup : ([] ++ o.empty).Nodup := h.empty
  obtain ⟨root, hempty, hroot⟩ := enters_empty Holds.explicit_nil hnodup
  obtain ⟨root', here, hrecords, hroot'⟩ := enters_records hroot h.apart h.fields []
  have hall := (hempty.append hrecords) []
  rw [List.append_nil] at hall
  exact ⟨root', hall, hroot'⟩

end

/-! ## Reading -/

theorem entryValues_eq_map (entries : List (String × Node)) :
    Node.entryValues entries = entries.map fun e => (e.1, e.2.value) := by
  induction entries with
  | nil => rfl
  | cons e rest ih => rw [Node.entryValues, ih, List.map_cons]

theorem itemValues_eq_map (items : List (List (String × Node))) :
    Node.itemValues items = items.map fun entries => .table (Node.entryValues entries) := by
  induction items with
  | nil => rfl
  | cons entries rest ih => rw [Node.itemValues, ih, List.map_cons]

/-- A record as a datum. -/
def recordValue (fields : List (String × Scalar)) : Value :=
  .table (fields.map fun field => (field.1, field.2.value))

theorem value_listNode (records : List (List (String × Scalar))) :
    (listNode records).value = .list (records.map recordValue) := by
  have hrecord : ∀ fields : List (String × Scalar), .table (Node.entryValues (leaves fields)) = recordValue fields := by
    intro fields
    rw [entryValues_eq_map, leaves, List.map_map]
    rfl
  cases records with
  | nil => rfl
  | cons =>
    rw [listNode, Node.value, itemValues_eq_map, List.map_map]
    · congr 2
      funext fields
      exact hrecord fields
    · exact List.cons_ne_nil _ _

/-- A text laid out as an outline is read as a table with the lists of the outline. -/
theorem read?_of_layout {o : Outline} {text : String} (h : Layout o.clauses text.toList) (ho : o.Consistent) :
    ∃ entries, read? text = some (.table entries) ∧ ∀ name,
      (entries.find? fun e => e.1 = name).map Prod.snd =
        (o.list? name).map fun records => .list (records.map recordValue) := by
  have hspoken := says_of_layout h
  have hmark : skipMark text.toList = text.toList := by
    unfold skipMark
    split
    · rename_i heq
      exact absurd (congrArg List.head? heq) hspoken.unmarked
    · rfl
  obtain ⟨root, hroot, hholds⟩ := exists_enter?_clauses ho
  refine ⟨Node.entryValues root.entries, ?_, fun name => ?_⟩
  · rw [read?, hmark]
    simp only [hspoken.statements?_eq, Option.bind_eq_bind, Option.bind_some, hroot, Option.pure_def]
  · have hget : (root.get? name).map Node.value = ((o.list? name).map listNode).map Node.value := by
      rw [hholds.get?]
    rw [entryValues_eq_map, List.find?_map]
    simp only [Section.get?, Option.map_map] at hget ⊢
    refine Eq.trans ?_ (hget.trans ?_)
    · rfl
    · congr 1
      funext records
      exact value_listNode records

end Router.Toml
