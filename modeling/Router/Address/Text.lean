import Router.Address
import Router.Text.Decimal
import Router.Text.Fields
import Router.Text.Notation

/-!
# The text of an address

IPv4 is four decimal numbers between dots, without leading zeros. IPv6 is eight groups of four hexadecimal digits
between colons. Written, a group has no leading zeros and small letters, the longest run of at least two zero groups
(the first of several) becomes `::`, and an address behind `::ffff:0:0/96` ends as an IPv4 text. Read, `::` may stand
for any run of at least one group, and the last two groups may be an IPv4 text.
-/

namespace Router.Address

open Router.Text

/-! ## Writing -/

/-- Four decimal numbers between dots. -/
def v4Chars (bits : V4Address) : List Char :=
  join ['.'] ((Bytes.ofNat 4 bits.toNat).map fun b => Decimal.chars b.toNat)

/-- The eight groups of 16 bits of an IPv6 address, the highest first. -/
def groups (bits : V6Address) : List Nat :=
  [7, 6, 5, 4, 3, 2, 1, 0].map fun i => (bits.extractLsb' (16 * i) 16).toNat

/-- How many groups from the `i`-th on are zero without a gap. -/
def zeroRun (gs : List Nat) (i : Nat) : Nat :=
  ((gs.drop i).takeWhile (· = 0)).length

/-- Start and length of the longest run of zero groups, the first of several. -/
def longestZeroRun (gs : List Nat) : Nat × Nat :=
  (List.range gs.length).foldl (fun best i => if best.2 < zeroRun gs i then (i, zeroRun gs i) else best) (0, 0)

/-- Groups between colons. -/
def groupChars (gs : List Nat) : List Char :=
  join [':'] (gs.map (Nat.toDigits 16))

/-- The text of an IPv6 address. -/
def v6Chars (bits : V6Address) : List Char :=
  if bits.extractLsb' 32 96 = 0xFFFF then "::ffff:".toList ++ v4Chars (bits.truncate 32)
  else
    let gs := groups bits
    let (start, length) := longestZeroRun gs
    if 1 < length then groupChars (gs.take start) ++ [':', ':'] ++ groupChars (gs.drop (start + length))
    else groupChars gs

/-- The characters of an address. -/
def chars : Address → List Char
  | .v4 bits => v4Chars bits
  | .v6 bits => v6Chars bits

instance : ToString Address where
  toString a := String.ofList a.chars

/-! ## Reading -/

/-- One to three decimal digits, no leading zero, at most 255. -/
def octet? (cs : List Char) : Option Nat :=
  if cs.length ≤ 3 ∧ (cs.head? = some '0' → cs.length = 1) then (Decimal.digits? cs).filter (· ≤ 255) else none

/-- The octets of an IPv4 text. -/
def v4Octets? (cs : List Char) : Option (List Nat) :=
  (((fields '.' cs).mapM octet?)).filter (·.length = 4)

/-- The address of an IPv4 text. -/
def v4? (cs : List Char) : Option V4Address :=
  (v4Octets? cs).map fun os => BitVec.ofNat 32 (os.foldl (fun acc o => acc * 256 + o) 0)

/-- One to four hexadecimal digits. -/
def group? (cs : List Char) : Option Nat :=
  if cs.length ≤ 4 then Radix.read? 16 cs else none

/-- The groups of a list of fields; with `tail`, the last field may be an IPv4 text, which makes two groups. -/
def groupsOfFields? (tail : Bool) : List (List Char) → Option (List Nat)
  | [] => some []
  | [field] =>
    match group? field with
    | some g => some [g]
    | none => if tail then (v4? field).map fun bits => [bits.toNat / 65536, bits.toNat % 65536] else none
  | field :: rest => do
    let g ← group? field
    let gs ← groupsOfFields? tail rest
    return g :: gs

/-- The groups of one side of a `::`; a side may be empty. -/
def side? (tail : Bool) (cs : List Char) : Option (List Nat) :=
  if cs = [] then some [] else groupsOfFields? tail (fields ':' cs)

/-- What stands before and after the first `::`. -/
def cutDouble? : List Char → Option (List Char × List Char)
  | ':' :: ':' :: rest => some ([], rest)
  | c :: rest => (cutDouble? rest).map fun (l, r) => (c :: l, r)
  | [] => none

/-- The eight groups of an IPv6 text. -/
def v6Groups? (cs : List Char) : Option (List Nat) :=
  match cutDouble? cs with
  | none => (side? true cs).filter (·.length = 8)
  | some (l, r) => do
    let before ← side? false l
    let after ← side? true r
    if before.length + after.length ≤ 7 then
      return before ++ List.replicate (8 - before.length - after.length) 0 ++ after
    else none

/-- The address of an IPv6 text. -/
def v6? (cs : List Char) : Option V6Address :=
  (v6Groups? cs).map fun gs => BitVec.ofNat 128 (gs.foldl (fun acc g => acc * 65536 + g) 0)

/-- The address that a text stands for. -/
def read? (cs : List Char) : Option Address :=
  match v4? cs with
  | some bits => some (.v4 bits)
  | none => (v6? cs).map .v6

/-- The address that a string stands for. -/
def ofString? (s : String) : Option Address :=
  read? s.toList

end Router.Address
