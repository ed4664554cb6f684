import Router.Detection
import Router.Document.Record
import Router.Firewall
import Router.Nat
import Router.Routing
import Router.Shaping.ClassQueue

/-!
# Rules as records

Each kind of rule as a record of plain data: its fields in order, those that are absent left out, and how it is read
back. Keywords have their exact spelling, networks, addresses and port ranges their text.
-/

namespace Router.Document

/-- A type whose values are records. -/
class Record (α : Type) where
  /-- The fields in order. -/
  fields : α → List (String × Scalar)
  /-- Reads the fields in order. -/
  reader : FieldReader α

/-- The record of a datum of a dialect. -/
def Record.ofValue? {α : Type} [Record α] (dialect : Dialect) (v : Value) : Option α :=
  FieldReader.run Record.reader dialect v

/-! ## Single fields -/

/-- A text field. -/
def textField (name s : String) : List (String × Scalar) :=
  [(name, .text s)]

/-- An integer field. -/
def integerField (name : String) (n : Int) : List (String × Scalar) :=
  [(name, .integer n)]

/-- A text field that may be absent. -/
def textField? {α : Type} (name : String) (a : Option α) (text : α → String) : List (String × Scalar) :=
  a.elim [] fun a => textField name (text a)

/-- A keyword field that may be absent. -/
def keywordField? {α : Type} [Text.Keyword α] (name : String) (a : Option α) : List (String × Scalar) :=
  textField? name a Text.Keyword.spelling

/-- A word of 16 bits. -/
def Value.word16? (v : Value) : Option UInt16 :=
  (v.natural? 65535).map UInt16.ofNat

/-- A word of 32 bits. -/
def Value.word32? (v : Value) : Option UInt32 :=
  (v.natural? 4294967295).map UInt32.ofNat

/-- A word of 64 bits. -/
def Value.word64? (v : Value) : Option UInt64 :=
  (v.natural? 18446744073709551615).map UInt64.ofNat

/-- A signed word of 32 bits. -/
def Value.int32? (v : Value) : Option Int32 :=
  (v.integer? (-2147483648) 2147483647).map Int32.ofInt

/-- A keyword that has to be there. -/
def keyword {α : Type} [Text.Keyword α] (name : String) : FieldReader α := do
  .required name (Value.keyword? (← read))

/-- A keyword, or another one if it is not there. -/
def keywordOrElse {α : Type} [Text.Keyword α] (name : String) (absent : α) : FieldReader α := do
  .orElse name absent (Value.keyword? (← read))

/-- An optional keyword. -/
def optionalKeyword {α : Type} [Text.Keyword α] (name : String) : FieldReader (Option α) := do
  .optional name (Value.keyword? (← read))

/-- An optional network. -/
def optionalNetwork (name : String) : FieldReader (Option Network) :=
  .optional name (Value.parsed? Network.ofString?)

/-- An optional port range. -/
def optionalPorts (name : String) : FieldReader (Option PortRange) :=
  .optional name (Value.parsed? PortRange.ofString?)

/-! ## Rules -/

instance : Record Route where
  fields r :=
    textField "destination" (toString r.destination) ++ textField? "gateway" r.gateway toString ++
      textField "interface" r.interface ++ integerField "metric" r.metric.toNat
  reader := do
    let destination ← .required "destination" (Value.parsed? Network.ofString?)
    let gateway ← .optional "gateway" (Value.parsed? Address.ofString?)
    let interface ← .required "interface" Value.text?
    let metric ← .orElse "metric" 0 Value.word32?
    return { destination, gateway, interface, metric }

instance : Record FilterRule where
  fields r :=
    textField "chain" r.chain.name ++ textField "action" r.verdict.name ++ keywordField? "protocol" r.protocol ++
      textField? "src" r.source toString ++ textField? "dst" r.destination toString ++
      textField? "src_port" r.sourcePort toString ++ textField? "dst_port" r.destinationPort toString ++
      textField? "in_interface" r.inInterface id ++ textField? "out_interface" r.outInterface id
  reader := do
    let chain ← keyword "chain"
    let verdict ← keyword "action"
    let protocol ← optionalKeyword "protocol"
    let source ← optionalNetwork "src"
    let destination ← optionalNetwork "dst"
    let sourcePort ← optionalPorts "src_port"
    let destinationPort ← optionalPorts "dst_port"
    let inInterface ← .optional "in_interface" Value.text?
    let outInterface ← .optional "out_interface" Value.text?
    return {
      chain, verdict, protocol, source, destination, sourcePort, destinationPort, inInterface, outInterface }

instance : Record NatRule where
  fields r :=
    textField "type" r.kind.name ++ textField? "src" r.source toString ++ textField? "dst" r.destination toString ++
      textField? "src_port" r.sourcePort toString ++ textField? "dst_port" r.destinationPort toString ++
      textField "to_ip" (toString r.toAddress) ++ r.toPort.elim [] fun port => integerField "to_port" port.toNat
  reader := do
    let kind ← keyword "type"
    let source ← optionalNetwork "src"
    let destination ← optionalNetwork "dst"
    let sourcePort ← optionalPorts "src_port"
    let destinationPort ← optionalPorts "dst_port"
    let toAddress ← .required "to_ip" (Value.parsed? Address.ofString?)
    let toPort ← .optional "to_port" Value.word16?
    return { kind, source, destination, sourcePort, destinationPort, toAddress, toPort }

instance : Record TrafficClass where
  fields c :=
    textField "name" c.name ++ keywordField? "protocol" c.protocol ++
      textField? "src_port" c.sourcePort toString ++ textField? "dst_port" c.destinationPort toString ++
      integerField "rate_kbps" c.rateKbps.toNat ++ integerField "priority" c.priority.toInt ++
      integerField "max_queue" c.maxQueue.toNat ++ textField "drop_policy" c.dropPolicy.name
  reader := do
    let name ← .required "name" Value.text?
    let protocol ← optionalKeyword "protocol"
    let sourcePort ← optionalPorts "src_port"
    let destinationPort ← optionalPorts "dst_port"
    let rateKbps ← .orElse "rate_kbps" 0 Value.word64?
    let priority ← .orElse "priority" 0 Value.int32?
    let maxQueue ← .orElse "max_queue" 0 Value.word64?
    let dropPolicy ← keywordOrElse "drop_policy" .tail
    return { name, protocol, sourcePort, destinationPort, rateKbps, priority, maxQueue, dropPolicy }

instance : Record Signature where
  fields s :=
    textField "name" s.name ++ keywordField? "protocol" s.protocol ++
      textField? "src" s.source toString ++ textField? "dst" s.destination toString ++
      textField? "src_port" s.sourcePort toString ++ textField? "dst_port" s.destinationPort toString ++
      textField? "payload_contains" s.payloadContains id ++ textField "action" s.response.name
  reader := do
    let name ← .required "name" Value.text?
    let protocol ← optionalKeyword "protocol"
    let source ← optionalNetwork "src"
    let destination ← optionalNetwork "dst"
    let sourcePort ← optionalPorts "src_port"
    let destinationPort ← optionalPorts "dst_port"
    let payloadContains ← .optional "payload_contains" Value.text?
    let response ← keywordOrElse "action" .alert
    return {
      name, protocol, source, destination, sourcePort, destinationPort, payloadContains, response }

end Router.Document
