import Router.Address.Text

/-!
# Networks

A network is a block of addresses of one family that share their leading bits. It is kept with its host bits cleared,
so that networks with the same addresses are equal. Written, it is the lowest address, a slash and the number of
leading bits; read, the host bits may be set, and a bare address is the block of itself alone.
-/

namespace Router

open Router.Text

/-- The word of width `w` whose `n` leading bits are set. -/
def leadingOnes (w n : Nat) : BitVec w :=
  BitVec.allOnes w <<< (w - n)

/-- A block of words of width `w`: those that agree with `base` on the leading `length` bits. -/
structure Block (w : Nat) where
  base : BitVec w
  length : Nat
  length_le : length ≤ w
  base_masked : base &&& leadingOnes w length = base
  deriving DecidableEq, Repr

namespace Block

variable {w : Nat}

/-- The block around a word; a length above the width counts as the width. -/
def around (word : BitVec w) (length : Nat) : Block w where
  base := word &&& leadingOnes w (min length w)
  length := min length w
  length_le := Nat.min_le_right _ _
  base_masked := by rw [BitVec.and_assoc, BitVec.and_self]

/-- Whether a word agrees with the base on the leading bits. -/
def contains (b : Block w) (word : BitVec w) : Bool :=
  b.base &&& leadingOnes w b.length == word &&& leadingOnes w b.length

end Block

/-- A network of either family. -/
inductive Network
  | v4 (block : Block 32)
  | v6 (block : Block 128)
  deriving DecidableEq, Repr

namespace Network

/-- The network of the addresses that agree with `a` on the leading `length` bits. -/
def around (a : Address) (length : Nat) : Network :=
  match a with
  | .v4 bits => .v4 (Block.around bits length)
  | .v6 bits => .v6 (Block.around bits length)

/-- The network of one address. -/
def host : Address → Network
  | .v4 bits => .v4 (Block.around bits 32)
  | .v6 bits => .v6 (Block.around bits 128)

/-- Whether an address lies in the network; an address of the other family does not. -/
def contains : Network → Address → Bool
  | .v4 block, .v4 bits => block.contains bits
  | .v6 block, .v6 bits => block.contains bits
  | _, _ => false

/-- Whether an address that may be missing lies in a network; without a network any will do. -/
def admits (network : Option Network) (a : Option Address) : Bool :=
  network.all fun n => a.any n.contains

/-- The number of leading bits that the addresses share. -/
def length : Network → Nat
  | .v4 block => block.length
  | .v6 block => block.length

/-- The lowest address of the network. -/
def base : Network → Address
  | .v4 block => .v4 block.base
  | .v6 block => .v6 block.base

/-- Lowest address, slash, length. -/
def chars (n : Network) : List Char :=
  n.base.chars ++ '/' :: Decimal.chars n.length

instance : ToString Network where
  toString n := String.ofList n.chars

/-- The greatest length of a network of the family of `a`. -/
def maxLength (a : Address) : Nat :=
  if a.isV4 then 32 else 128

/-- The network that a text stands for. -/
def read? (cs : List Char) : Option Network :=
  match cut? '/' cs with
  | none => (Address.read? cs).map host
  | some (l, r) => do
    let a ← Address.read? l
    let length ← Decimal.read? 255 r
    if maxLength a < length then none else return around a length

/-- The network that a string stands for. -/
def ofString? (s : String) : Option Network :=
  read? s.toList

end Network

end Router
