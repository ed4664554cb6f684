import Router.Document.Value

/-!
# Where the entries of a document go

A document is built from its entries in order, and each name is defined once. A table comes to be in three ways: by a
header or braces of its own, by a header below it, or by a dotted name; what may be entered into it later depends on
that.
-/

namespace Router.Toml

open Router.Document

/-- What stands under a name while a document is built. -/
inductive Node
  | leaf (value : Value)
  /-- A table; `implied` if nothing but a longer name or header brought it up, `dotted` if that was a name. -/
  | table (implied dotted : Bool) (entries : List (String × Node))
  /-- A list of tables, each with its entries. -/
  | tables (items : List (List (String × Node)))

/-- A table while it is built. -/
structure Section where
  implied : Bool
  dotted : Bool
  entries : List (String × Node)

namespace Section

/-- The table of a header or of braces. -/
def explicit (entries : List (String × Node)) : Section :=
  ⟨false, false, entries⟩

/-- What stands under a name. -/
def get? (s : Section) (name : String) : Option Node :=
  (s.entries.find? fun e => e.1 = name).map Prod.snd

/-- The table with something under a name, in place of what stood there. -/
def set (s : Section) (name : String) (node : Node) : Section :=
  if s.entries.any fun e => e.1 = name then
    { s with entries := s.entries.map fun e => if e.1 = name then (name, node) else e }
  else { s with entries := s.entries ++ [(name, node)] }

/-- A table as it stands in another one. -/
def node (s : Section) : Node :=
  .table s.implied s.dotted s.entries

/-- Changes the table at the end of a path by `f`. Missing tables on the way come up implied, `dotted` as given; the
last one of a list of tables is meant. A dotted path does not lead into tables that have a definition of their own. -/
def modify (dotted : Bool) (f : Section → Option Section) : (path : List String) → Section → Option Section
  | [], s => f s
  | name :: path, s =>
    match s.get? name with
    | none => (modify dotted f path ⟨true, dotted, []⟩).map fun t => s.set name t.node
    | some (.leaf _) => none
    | some (.table implied isDotted entries) =>
      if dotted && !implied then none
      else (modify dotted f path ⟨implied, isDotted, entries⟩).map fun t => s.set name t.node
    | some (.tables items) =>
      match items.getLast? with
      | none => none
      | some entries =>
        (modify dotted f path (explicit entries)).map fun t =>
          s.set name (.tables (items.dropLast ++ [t.entries]))

/-- The table with a new value under a dotted name. -/
def insert (s : Section) (path : List String) (name : String) (value : Value) : Option Section :=
  s.modify true
    (fun t => if t.dotted == path.isEmpty || (t.get? name).isSome then none else some (t.set name (.leaf value))) path

end Section

mutual

/-- What stands under a name, as plain data. -/
def Node.value : Node → Value
  | .leaf value => value
  | .table _ _ entries => .table (Node.entryValues entries)
  | .tables items => .list (Node.itemValues items)

/-- The entries of a table as plain data. -/
def Node.entryValues : List (String × Node) → List (String × Value)
  | [] => []
  | (name, node) :: rest => (name, node.value) :: Node.entryValues rest

/-- The tables of a list as plain data. -/
def Node.itemValues : List (List (String × Node)) → List Value
  | [] => []
  | entries :: rest => .table (Node.entryValues entries) :: Node.itemValues rest

end

/-! ## Headers -/

/-- What a header brings up. -/
inductive HeaderKind
  /-- A table. -/
  | single
  /-- One more table of a list. -/
  | repeated
  deriving DecidableEq, Repr

/-- The document with the table of a header. Only a table that a longer header implied may be there before, or a list
of tables if one more is added. -/
def Section.openHeader (root : Section) (kind : HeaderKind) (path : List String) (name : String) : Option Section :=
  root.modify false (fun parent =>
    match kind, parent.get? name with
    | .single, none => some (parent.set name (.table false false []))
    | .single, some (.table true false entries) => some (parent.set name (.table false false entries))
    | .repeated, none => some (parent.set name (.tables [[]]))
    | .repeated, some (.tables items) => some (parent.set name (.tables (items ++ [[]])))
    | _, _ => none) path

end Router.Toml
