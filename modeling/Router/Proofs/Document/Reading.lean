import Router.Proofs.Document.Rules

/-!
# Rules read from their fields

Where the fields of a table show a rule, the reader of such rules finds it, whatever else stands there
(`Route.yields`, `FilterRule.yields`, `NatRule.yields`, `TrafficClass.yields`). `Yields` tells what a reader finds in a
table; it goes along with the steps of a reader, and there is one lemma for each kind of field.
-/

namespace Router

open Router.Document Router.Text

namespace Document

variable {α β : Type} {dialect : Dialect} {entries : List (String × Value)} {name : String}

/-- What a reader finds in a table. -/
def Yields (dialect : Dialect) (reader : FieldReader α) (entries : List (String × Value)) (a : α) : Prop :=
  reader dialect (.named entries) = some (a, .named entries)

/-- The datum under a name. -/
def datum? (entries : List (String × Value)) (name : String) : Option Value :=
  (entries.find? fun e => e.1 = name).map Prod.snd

namespace Yields

theorem pure (a : α) : Yields dialect (pure a) entries a := rfl

theorem bind {reader : FieldReader α} {next : α → FieldReader β} {a : α} {b : β}
    (h : Yields dialect reader entries a) (h' : Yields dialect (next a) entries b) :
    Yields dialect (reader >>= next) entries b := by
  have hsteps : (reader >>= next) dialect (.named entries) =
      (reader dialect (.named entries)).bind fun result => next result.1 dialect result.2 := rfl
  rw [Yields, hsteps, h]
  exact h'

theorem run {reader : FieldReader α} {a : α} (h : Yields dialect reader entries a) :
    reader.run dialect (.table entries) = some a := by
  have hfields : (Value.table entries).fields? = some (.named entries) := rfl
  rw [FieldReader.run, hfields]
  simp only [Option.bind_eq_bind, Option.bind_some]
  rw [h]
  rfl

end Yields

/-! ## Fields -/

section

variable {σ : Type} {Means : α → σ → Prop} {read? : Value → Option α} {value : σ → Value} {field : Option σ}

theorem Yields.required {a : α} (h : Required Means a field) (hdatum : datum? entries name = field.map value)
    (hread : ∀ a x, Means a x → read? (value x) = some a) :
    Yields dialect (.required name read?) entries a := by
  have hnext : FieldReader.next name (.named entries) = (datum? entries name, .named entries) := rfl
  obtain ⟨hmeans⟩ := h
  rw [Yields, FieldReader.required, hnext, hdatum, Option.map_some]
  dsimp only
  rw [hread _ _ hmeans, Option.map_some]

theorem Yields.orElse {absent a : α} (h : OrElse absent Means a field) (hdatum : datum? entries name = field.map value)
    (hread : ∀ a x, Means a x → read? (value x) = some a) :
    Yields dialect (.orElse name absent read?) entries a := by
  have hnext : FieldReader.next name (.named entries) = (datum? entries name, .named entries) := rfl
  rw [Yields, FieldReader.orElse, hnext, hdatum]
  cases h with
  | absent => rfl
  | found hmeans =>
    rw [Option.map_some]
    dsimp only
    rw [hread _ _ hmeans, Option.map_some]

end

/-- The fields of a record as the entries of a table. -/
def entriesOf (fields : List (String × Scalar)) : List (String × Value) :=
  fields.map fun field => (field.1, field.2.value)

section

variable {Means : α → Scalar → Prop} {read? : Value → Option α} {fields : List (String × Scalar)}

theorem datum?_entriesOf (fields : List (String × Scalar)) (name : String) :
    datum? (entriesOf fields) name = (lookup fields name).map Scalar.value := by
  rw [datum?, lookup, entriesOf, List.find?_map, Option.map_map, Option.map_map]
  rfl

/-- A reader of scalars finds what they stand for. -/
def Reads (read? : Value → Option α) (Means : α → Scalar → Prop) : Prop :=
  ∀ a x, Means a x → read? x.value = some a

theorem Reads.required (hread : Reads read? Means) {a : α} (h : Required Means a (lookup fields name)) :
    Yields dialect (.required name read?) (entriesOf fields) a :=
  .required h (datum?_entriesOf fields name) hread

theorem Reads.orElse (hread : Reads read? Means) {absent a : α} (h : OrElse absent Means a (lookup fields name)) :
    Yields dialect (.orElse name absent read?) (entriesOf fields) a :=
  .orElse h (datum?_entriesOf fields name) hread

theorem Reads.optional (hread : Reads read? Means) {a : Option α} (h : Optionally Means a (lookup fields name)) :
    Yields dialect (.optional name read?) (entriesOf fields) a := by
  have hnext : FieldReader.next name (.named (entriesOf fields)) =
      (datum? (entriesOf fields) name, .named (entriesOf fields)) := rfl
  rw [Yields, FieldReader.optional, FieldReader.orElse, hnext, datum?_entriesOf]
  generalize lookup fields name = field at h
  cases h with
  | absent => rfl
  | @found b x hmeans =>
    have hvalue : FieldReader.nullable read? x.value = (read? x.value).map some := by
      cases x <;> rfl
    rw [Option.map_some]
    dsimp only
    rw [hvalue, hread _ _ hmeans, Option.map_some, Option.map_some]

end

/-! ## What scalars stand for -/

theorem reads_text : Reads Value.text? (Parses some) := by
  rintro s _ ⟨h⟩
  exact h

theorem reads_parsed (parse? : String → Option α) : Reads (Value.parsed? parse?) (Parses parse?) := by
  rintro a _ ⟨h⟩
  exact h

theorem reads_keyword [Keyword α] : Reads (α := α) (Value.keyword? dialect) (Parses Keyword.spelled?) := by
  rintro a _ ⟨h⟩
  exact h

theorem natural?_of_le {n bound : Nat} (h : n ≤ bound) : Value.natural? bound (.integer n) = some n := by
  rw [Value.natural?, Value.integer?, if_pos ⟨Int.natCast_nonneg n, Int.ofNat_le.2 h⟩, Option.map_some,
    Int.toNat_natCast]

theorem reads_word16 : Reads Value.word16? (Counts fun n : UInt16 => n.toNat) := by
  rintro n _ ⟨⟩
  rw [Scalar.value, Value.word16?, natural?_of_le (Nat.le_of_lt_succ n.toNat_lt), Option.map_some, UInt16.ofNat_toNat]

theorem reads_word32 : Reads Value.word32? (Counts fun n : UInt32 => n.toNat) := by
  rintro n _ ⟨⟩
  rw [Scalar.value, Value.word32?, natural?_of_le (Nat.le_of_lt_succ n.toNat_lt), Option.map_some, UInt32.ofNat_toNat]

theorem reads_word64 : Reads Value.word64? (Counts fun n : UInt64 => n.toNat) := by
  rintro n _ ⟨⟩
  rw [Scalar.value, Value.word64?, natural?_of_le (Nat.le_of_lt_succ n.toNat_lt), Option.map_some, UInt64.ofNat_toNat]

theorem reads_int32 : Reads Value.int32? (Counts Int32.toInt) := by
  rintro n _ ⟨⟩
  rw [Scalar.value, Value.int32?, Value.integer?, if_pos ⟨n.le_toInt, Int.le_of_lt_add_one n.toInt_lt⟩,
    Option.map_some, Int32.ofInt_toInt]

end Document

/-! ## Rules -/

section

variable {dialect : Dialect} {fields : List (String × Scalar)}

theorem Route.yields {r : Route} (h : r.ShownBy fields) : Yields dialect Record.reader (entriesOf fields) r := by
  refine .bind ((reads_parsed Network.ofString?).required h.destination) ?_
  refine .bind ((reads_parsed Address.ofString?).optional h.gateway) ?_
  refine .bind (reads_text.required h.interface) ?_
  refine .bind (reads_word32.orElse h.metric) ?_
  exact .pure r

theorem FilterRule.yields {r : FilterRule} (h : r.ShownBy fields) :
    Yields dialect Record.reader (entriesOf fields) r := by
  refine .bind (.bind rfl (reads_keyword.required h.chain)) ?_
  refine .bind (.bind rfl (reads_keyword.required h.verdict)) ?_
  refine .bind (.bind rfl (reads_keyword.optional h.protocol)) ?_
  refine .bind ((reads_parsed Network.ofString?).optional h.source) ?_
  refine .bind ((reads_parsed Network.ofString?).optional h.destination) ?_
  refine .bind ((reads_parsed PortRange.ofString?).optional h.sourcePort) ?_
  refine .bind ((reads_parsed PortRange.ofString?).optional h.destinationPort) ?_
  refine .bind (reads_text.optional h.inInterface) ?_
  refine .bind (reads_text.optional h.outInterface) ?_
  exact .pure r

theorem NatRule.yields {r : NatRule} (h : r.ShownBy fields) : Yields dialect Record.reader (entriesOf fields) r := by
  refine .bind (.bind rfl (reads_keyword.required h.kind)) ?_
  refine .bind ((reads_parsed Network.ofString?).optional h.source) ?_
  refine .bind ((reads_parsed Network.ofString?).optional h.destination) ?_
  refine .bind ((reads_parsed PortRange.ofString?).optional h.sourcePort) ?_
  refine .bind ((reads_parsed PortRange.ofString?).optional h.destinationPort) ?_
  refine .bind ((reads_parsed Address.ofString?).required h.toAddress) ?_
  refine .bind (reads_word16.optional h.toPort) ?_
  exact .pure r

theorem TrafficClass.yields {c : TrafficClass} (h : c.ShownBy fields) :
    Yields dialect Record.reader (entriesOf fields) c := by
  refine .bind (reads_text.required h.name) ?_
  refine .bind (.bind rfl (reads_keyword.optional h.protocol)) ?_
  refine .bind ((reads_parsed PortRange.ofString?).optional h.sourcePort) ?_
  refine .bind ((reads_parsed PortRange.ofString?).optional h.destinationPort) ?_
  refine .bind (reads_word64.orElse h.rateKbps) ?_
  refine .bind (reads_int32.orElse h.priority) ?_
  refine .bind (reads_word64.orElse h.maxQueue) ?_
  refine .bind (.bind rfl (reads_keyword.orElse h.dropPolicy)) ?_
  exact .pure c

end

end Router
