import Router.Document.Rules
import Router.Proofs.Network

/-!
# What fields show

Which rule the fields of a record show, whoever reads them: each part of the rule is what stands under one name
(`Route.ShownBy`, `FilterRule.ShownBy`, `NatRule.ShownBy`, `TrafficClass.ShownBy`). A field has to be there
(`Required`), may be missing (`Optionally`) or has a value of its own then (`OrElse`); what is there is a text that is
parsed (`Parses`) or an integer (`Counts`). Main statements: the fields that are written for a rule show that rule
(`Route.shownBy_fields` and its like), for all but a route if neither of its port ranges is empty.
-/

namespace Router

open Router.Document Router.Text

namespace Document

/-! ## Fields by name -/

/-- The scalar under a name. -/
def lookup (fields : List (String × Scalar)) (name : String) : Option Scalar :=
  (fields.find? fun field => field.1 = name).map Prod.snd

section

variable {α : Type} {fields fields' : List (String × Scalar)} {name name' : String}

@[simp] theorem lookup_nil : lookup [] name = none := rfl

@[simp] theorem lookup_append : lookup (fields ++ fields') name = (lookup fields name).or (lookup fields' name) := by
  rw [lookup, lookup, lookup, List.find?_append, Option.map_or]

@[simp] theorem lookup_textField (s : String) :
    lookup (textField name' s) name = if name' = name then some (.text s) else none := by
  by_cases h : name' = name <;> simp [lookup, textField, h]

@[simp] theorem lookup_integerField (n : Int) :
    lookup (integerField name' n) name = if name' = name then some (.integer n) else none := by
  by_cases h : name' = name <;> simp [lookup, integerField, h]

/-- Fields that are only there with a value. -/
@[simp] theorem lookup_elim (a : Option α) (write : α → List (String × Scalar)) :
    lookup (a.elim [] write) name = a.bind fun a => lookup (write a) name := by
  cases a <;> rfl

@[simp] theorem lookup_textField? (a : Option α) (text : α → String) :
    lookup (textField? name' a text) name = if name' = name then a.map fun a => .text (text a) else none := by
  cases a <;> simp [textField?]

@[simp] theorem lookup_keywordField? [Keyword α] (a : Option α) :
    lookup (keywordField? name' a) name =
      if name' = name then a.map fun a => .text (Keyword.spelling a) else none :=
  lookup_textField? a Keyword.spelling

end

/-! ## What stands under a name -/

section

variable {α σ : Type}

/-- A text that is parsed as a value. -/
inductive Parses (parse? : String → Option α) (a : α) : Scalar → Prop
  | text {s : String} (h : parse? s = some a) : Parses parse? a (.text s)

/-- The integer of a word. -/
inductive Counts (toInt : α → Int) (a : α) : Scalar → Prop
  | integer : Counts toInt a (.integer (toInt a))

/-- A field that has to be there. -/
inductive Required (Means : α → σ → Prop) (a : α) : Option σ → Prop
  | found {x : σ} (h : Means a x) : Required Means a (some x)

/-- A field that has a value of its own if it is not there. -/
inductive OrElse (absent : α) (Means : α → σ → Prop) : α → Option σ → Prop
  | found {a : α} {x : σ} (h : Means a x) : OrElse absent Means a (some x)
  | absent : OrElse absent Means absent none

/-- A field that need not be there. -/
inductive Optionally (Means : α → σ → Prop) : Option α → Option σ → Prop
  | found {a : α} {x : σ} (h : Means a x) : Optionally Means (some a) (some x)
  | absent : Optionally Means none none

variable {Means : α → σ → Prop} {a : α} {x : σ} {field : Option σ}

theorem Required.of_eq (h : field = some x) (hx : Means a x) : Required Means a field :=
  h ▸ .found hx

theorem OrElse.of_eq {absent : α} (h : field = some x) (hx : Means a x) : OrElse absent Means a field :=
  h ▸ .found hx

/-- What is written only with a value. -/
theorem Optionally.of_eq {a : Option α} {write : α → σ} (h : field = a.map write)
    (hwrite : ∀ b ∈ a, Means b (write b)) : Optionally Means a field := by
  rw [h]
  cases a with
  | none => exact .absent
  | some b => exact .found (hwrite b rfl)

end

theorem parses_network (n : Network) : Parses Network.ofString? n (.text (toString n)) :=
  .text (Network.ofString?_toString n)

theorem parses_address (a : Address) : Parses Address.ofString? a (.text (toString a)) :=
  .text (Address.ofString?_toString a)

theorem parses_ports {r : PortRange} (h : r.first ≤ r.last) : Parses PortRange.ofString? r (.text (toString r)) :=
  .text (PortRange.ofString?_toString h)

theorem parses_keyword {α : Type} [Keyword α] [Keyword.Sound α] (a : α) :
    Parses Keyword.spelled? a (.text (Keyword.spelling a)) :=
  .text (Keyword.spelled?_spelling a)

theorem parses_text (s : String) : Parses some s (.text s) :=
  .text rfl

end Document

/-! ## Rules -/

/-- The fields of a route. -/
structure Route.ShownBy (r : Route) (fields : List (String × Scalar)) : Prop where
  destination : Required (Parses Network.ofString?) r.destination (lookup fields "destination")
  gateway : Optionally (Parses Address.ofString?) r.gateway (lookup fields "gateway")
  interface : Required (Parses some) r.interface (lookup fields "interface")
  metric : OrElse 0 (Counts fun n : UInt32 => n.toNat) r.metric (lookup fields "metric")

/-- The fields of a filter rule. -/
structure FilterRule.ShownBy (r : FilterRule) (fields : List (String × Scalar)) : Prop where
  chain : Required (Parses Keyword.spelled?) r.chain (lookup fields "chain")
  verdict : Required (Parses Keyword.spelled?) r.verdict (lookup fields "action")
  protocol : Optionally (Parses Keyword.spelled?) r.protocol (lookup fields "protocol")
  source : Optionally (Parses Network.ofString?) r.source (lookup fields "src")
  destination : Optionally (Parses Network.ofString?) r.destination (lookup fields "dst")
  sourcePort : Optionally (Parses PortRange.ofString?) r.sourcePort (lookup fields "src_port")
  destinationPort : Optionally (Parses PortRange.ofString?) r.destinationPort (lookup fields "dst_port")
  inInterface : Optionally (Parses some) r.inInterface (lookup fields "in_interface")
  outInterface : Optionally (Parses some) r.outInterface (lookup fields "out_interface")

/-- The fields of a NAT rule. -/
structure NatRule.ShownBy (r : NatRule) (fields : List (String × Scalar)) : Prop where
  kind : Required (Parses Keyword.spelled?) r.kind (lookup fields "type")
  source : Optionally (Parses Network.ofString?) r.source (lookup fields "src")
  destination : Optionally (Parses Network.ofString?) r.destination (lookup fields "dst")
  sourcePort : Optionally (Parses PortRange.ofString?) r.sourcePort (lookup fields "src_port")
  destinationPort : Optionally (Parses PortRange.ofString?) r.destinationPort (lookup fields "dst_port")
  toAddress : Required (Parses Address.ofString?) r.toAddress (lookup fields "to_ip")
  toPort : Optionally (Counts fun n : UInt16 => n.toNat) r.toPort (lookup fields "to_port")

/-- The fields of a traffic class. -/
structure TrafficClass.ShownBy (c : TrafficClass) (fields : List (String × Scalar)) : Prop where
  name : Required (Parses some) c.name (lookup fields "name")
  protocol : Optionally (Parses Keyword.spelled?) c.protocol (lookup fields "protocol")
  sourcePort : Optionally (Parses PortRange.ofString?) c.sourcePort (lookup fields "src_port")
  destinationPort : Optionally (Parses PortRange.ofString?) c.destinationPort (lookup fields "dst_port")
  rateKbps : OrElse 0 (Counts fun n : UInt64 => n.toNat) c.rateKbps (lookup fields "rate_kbps")
  priority : OrElse 0 (Counts Int32.toInt) c.priority (lookup fields "priority")
  maxQueue : OrElse 0 (Counts fun n : UInt64 => n.toNat) c.maxQueue (lookup fields "max_queue")
  dropPolicy : OrElse .tail (Parses Keyword.spelled?) c.dropPolicy (lookup fields "drop_policy")

/-! ## What is written -/

theorem Route.shownBy_fields (r : Route) : r.ShownBy (Record.fields r) where
  destination := .of_eq (by simp [Record.fields]) (parses_network r.destination)
  gateway := .of_eq (by simp [Record.fields]) fun a _ => parses_address a
  interface := .of_eq (by simp [Record.fields]) (parses_text r.interface)
  metric := .of_eq (by simp [Record.fields]) .integer

theorem FilterRule.shownBy_fields {r : FilterRule} (hsource : ∀ ports ∈ r.sourcePort, ports.first ≤ ports.last)
    (hdestination : ∀ ports ∈ r.destinationPort, ports.first ≤ ports.last) : r.ShownBy (Record.fields r) where
  chain := .of_eq (by simp [Record.fields]; rfl) (parses_keyword r.chain)
  verdict := .of_eq (by simp [Record.fields]; rfl) (parses_keyword r.verdict)
  protocol := .of_eq (by simp [Record.fields]) fun p _ => parses_keyword p
  source := .of_eq (by simp [Record.fields]) fun n _ => parses_network n
  destination := .of_eq (by simp [Record.fields]) fun n _ => parses_network n
  sourcePort := .of_eq (by simp [Record.fields]) fun ports hports => parses_ports (hsource ports hports)
  destinationPort := .of_eq (by simp [Record.fields]) fun ports hports => parses_ports (hdestination ports hports)
  inInterface := .of_eq (by simp [Record.fields]) fun s _ => parses_text s
  outInterface := .of_eq (by simp [Record.fields]) fun s _ => parses_text s

theorem NatRule.shownBy_fields {r : NatRule} (hsource : ∀ ports ∈ r.sourcePort, ports.first ≤ ports.last)
    (hdestination : ∀ ports ∈ r.destinationPort, ports.first ≤ ports.last) : r.ShownBy (Record.fields r) where
  kind := .of_eq (by simp [Record.fields]; rfl) (parses_keyword r.kind)
  source := .of_eq (by simp [Record.fields]) fun n _ => parses_network n
  destination := .of_eq (by simp [Record.fields]) fun n _ => parses_network n
  sourcePort := .of_eq (by simp [Record.fields]) fun ports hports => parses_ports (hsource ports hports)
  destinationPort := .of_eq (by simp [Record.fields]) fun ports hports => parses_ports (hdestination ports hports)
  toAddress := .of_eq (by simp [Record.fields]) (parses_address r.toAddress)
  toPort := .of_eq (by cases h : r.toPort <;> simp [Record.fields, h]) fun n _ => .integer

theorem TrafficClass.shownBy_fields {c : TrafficClass} (hsource : ∀ ports ∈ c.sourcePort, ports.first ≤ ports.last)
    (hdestination : ∀ ports ∈ c.destinationPort, ports.first ≤ ports.last) : c.ShownBy (Record.fields c) where
  name := .of_eq (by simp [Record.fields]) (parses_text c.name)
  protocol := .of_eq (by simp [Record.fields]) fun p _ => parses_keyword p
  sourcePort := .of_eq (by simp [Record.fields]) fun ports hports => parses_ports (hsource ports hports)
  destinationPort := .of_eq (by simp [Record.fields]) fun ports hports => parses_ports (hdestination ports hports)
  rateKbps := .of_eq (by simp [Record.fields]) .integer
  priority := .of_eq (by simp [Record.fields]) .integer
  maxQueue := .of_eq (by simp [Record.fields]) .integer
  dropPolicy := .of_eq (by simp [Record.fields]; rfl) (parses_keyword c.dropPolicy)

end Router
