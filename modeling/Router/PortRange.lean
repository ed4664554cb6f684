import Router.Text.Blank
import Router.Text.Fields
import Router.Text.Decimal

/-!
# Port ranges

The ports from a first to a last one. Written, a range is its two ends with a hyphen, or one number when they agree;
read, blanks may stand around the numbers, and the first must not be above the last.
-/

namespace Router

open Router.Text

/-- The ports from `first` to `last`; none if `first` is above `last`. -/
structure PortRange where
  first : UInt16
  last : UInt16
  deriving DecidableEq, Repr

namespace PortRange

/-- The range of one port. -/
def single (port : UInt16) : PortRange :=
  ⟨port, port⟩

/-- Whether a port lies in the range. -/
def contains (r : PortRange) (port : UInt16) : Bool :=
  r.first ≤ port && port ≤ r.last

/-- Whether a port lies in a range; without a range any will do. -/
def admits (range : Option PortRange) (port : UInt16) : Bool :=
  range.all fun r => r.contains port

/-- The two ends with a hyphen, or one number. -/
def chars (r : PortRange) : List Char :=
  if r.first = r.last then Decimal.chars r.first.toNat
  else Decimal.chars r.first.toNat ++ '-' :: Decimal.chars r.last.toNat

instance : ToString PortRange where
  toString r := String.ofList r.chars

/-- A port between blanks. -/
def port? (cs : List Char) : Option UInt16 :=
  (Decimal.read? 65535 (trim cs)).map UInt16.ofNat

/-- The range that a text stands for. -/
def read? (cs : List Char) : Option PortRange :=
  match cut? '-' cs with
  | none => (port? cs).map single
  | some (l, r) => do
    let first ← port? l
    let last ← port? r
    if last < first then none else return ⟨first, last⟩

/-- The range that a string stands for. -/
def ofString? (s : String) : Option PortRange :=
  read? s.toList

end PortRange

end Router
