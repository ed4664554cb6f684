import Router.Document.Value
import Router.Text.Keyword

/-!
# Reading records from plain data

A record is read field by field, in a fixed order. Its datum is a table, where fields are found by name and other names
do not count, or a list, where they stand in order; what follows the last one does not count in TOML and is refused in
JSON. A date-time stands for a table with one reserved name.
-/

namespace Router.Document

/-! ## Scalars -/

/-- A text. -/
def Value.text? : Value → Option String
  | .text s => some s
  | _ => none

/-- An integer between bounds. -/
def Value.integer? (low high : Int) : Value → Option Int
  | .integer n => if low ≤ n ∧ n ≤ high then some n else none
  | _ => none

/-- A natural number up to a bound. -/
def Value.natural? (bound : Nat) (v : Value) : Option Nat :=
  (v.integer? 0 bound).map Int.toNat

/-- What a text stands for. -/
def Value.parsed? {α : Type} (read? : String → Option α) (v : Value) : Option α :=
  v.text?.bind read?

/-- A list of what each datum stands for. -/
def Value.list? {α : Type} (read? : Value → Option α) : Value → Option (List α)
  | .list items => items.mapM read?
  | _ => none

/-- Whether a datum says nothing: null, and in TOML, which has no null, an empty list or table. -/
def Value.isVoid (dialect : Dialect) : Value → Bool
  | .null => true
  | .list [] | .table [] => dialect = .toml
  | _ => false

/-- A keyword by its exact spelling; also a table of that name alone, which says nothing. -/
def Value.keyword? {α : Type} [Text.Keyword α] (dialect : Dialect) : Value → Option α
  | .text s => Text.Keyword.spelled? s
  | .table [(name, v)] => if v.isVoid dialect then Text.Keyword.spelled? name else none
  | _ => none

/-! ## Records -/

/-- The fields of a record that are still to be read. -/
inductive Fields
  | named (entries : List (String × Value))
  | ordered (items : List Value)

/-- The one name in the table that a date-time stands for. -/
def dateTimeName : String := "$__toml_private_datetime"

/-- The entries of a table. -/
def Value.entries? : Value → Option (List (String × Value))
  | .table entries => some entries
  | .dateTime written => some [(dateTimeName, .text written)]
  | _ => none

/-- The fields of a datum that can be a record. -/
def Value.fields? : Value → Option Fields
  | .list items => some (.ordered items)
  | v => v.entries?.map .named

/-- Whether a record of a dialect may end with these fields unread. -/
def Fields.mayRemain (dialect : Dialect) : Fields → Bool
  | .named _ | .ordered [] => true
  | .ordered _ => dialect = .toml

/-- Reads part of a record of some dialect, field by field. -/
abbrev FieldReader (α : Type) := ReaderT Dialect (StateT Fields Option) α

namespace FieldReader

variable {α : Type}

/-- The datum of the next field, if it is there. -/
def next (name : String) (fields : Fields) : Option Value × Fields :=
  match fields with
  | .named entries => ((entries.find? fun e => e.1 = name).map Prod.snd, fields)
  | .ordered [] => (none, fields)
  | .ordered (v :: rest) => (some v, .ordered rest)

/-- A field that has to be there. -/
def required (name : String) (read? : Value → Option α) : FieldReader α := fun _ fields =>
  match next name fields with
  | (some v, fields) => (read? v).map (·, fields)
  | (none, _) => none

/-- A field that has a value of its own if it is not there. -/
def orElse (name : String) (absent : α) (read? : Value → Option α) : FieldReader α := fun _ fields =>
  match next name fields with
  | (some v, fields) => (read? v).map (·, fields)
  | (none, fields) => some (absent, fields)

/-- A datum, or none for null. -/
def nullable (read? : Value → Option α) : Value → Option (Option α)
  | .null => some none
  | v => (read? v).map some

/-- A field that need not be there. -/
def optional (name : String) (read? : Value → Option α) : FieldReader (Option α) :=
  orElse name none (nullable read?)

/-- A field that need not be there, but must if fields stand in order. -/
def optionalByName (name : String) (read? : Value → Option α) : FieldReader (Option α) := fun dialect fields =>
  match fields with
  | .named _ => optional name read? dialect fields
  | .ordered _ => required name (nullable read?) dialect fields

/-- The record of a datum of a dialect. -/
def run (reader : FieldReader α) (dialect : Dialect) (v : Value) : Option α := do
  let fields ← v.fields?
  let (a, rest) ← reader dialect fields
  if rest.mayRemain dialect then return a else none

end FieldReader

end Router.Document
