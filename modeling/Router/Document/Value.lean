/-!
# Plain data

A tree of plain data, as documents of either dialect hold it.
-/

namespace Router.Document

/-- What a document is written in. The dialects differ in how freely records may be written. -/
inductive Dialect
  | json
  | toml
  deriving DecidableEq, Repr

/-- A datum of a document. -/
inductive Value
  /-- No value where there could be one. -/
  | null
  | boolean (b : Bool)
  | integer (n : Int)
  /-- A number that is not written as an integer, in its notation. -/
  | decimal (text : String)
  | text (s : String)
  /-- A date, a time or both, in its notation. -/
  | dateTime (text : String)
  | list (items : List Value)
  /-- Values by name. -/
  | table (entries : List (String × Value))
  deriving Repr, Inhabited

/-- A datum that is no list and no table of others. -/
inductive Scalar
  | integer (n : Int)
  | text (s : String)
  deriving DecidableEq, Repr

/-- A scalar as a datum. -/
def Scalar.value : Scalar → Value
  | .integer n => .integer n
  | .text s => .text s

end Router.Document
