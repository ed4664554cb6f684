import Router.Bytes

/-!
# Addresses

An address is a word of 32 or 128 bits. Main statement: the octets of an address stand for its word
(`toNat_octets_v4`, `toNat_octets_v6`).
-/

namespace Router

/-- An IPv4 address as a word, first octet highest. -/
abbrev V4Address := BitVec 32

/-- An IPv6 address as a word, first octet highest. -/
abbrev V6Address := BitVec 128

/-- An IP address of either family. -/
inductive Address
  | v4 (bits : V4Address)
  | v6 (bits : V6Address)
  deriving DecidableEq, Repr

namespace Address

/-- Whether an address is of the IPv4 family. -/
def isV4 : Address → Bool
  | .v4 _ => true
  | .v6 _ => false

/-- The octets of an address in the order of the wire. -/
def octets : Address → List UInt8
  | .v4 bits => Bytes.ofNat 4 bits.toNat
  | .v6 bits => Bytes.ofNat 16 bits.toNat

/-- The octets of an address as IPv6 carries it: an IPv4 address stands behind `::ffff:0:0/96`. -/
def mappedOctets : Address → List UInt8
  | .v4 bits => Bytes.ofNat 12 0xFFFF ++ Bytes.ofNat 4 bits.toNat
  | .v6 bits => Bytes.ofNat 16 bits.toNat

theorem toNat_octets_v4 (bits : V4Address) : Bytes.toNat (octets (.v4 bits)) = bits.toNat := by
  have h : bits.toNat < Bytes.place 4 := bits.isLt
  rw [octets, Bytes.toNat_ofNat, Nat.mod_eq_of_lt h]

theorem toNat_octets_v6 (bits : V6Address) : Bytes.toNat (octets (.v6 bits)) = bits.toNat := by
  have h : bits.toNat < Bytes.place 16 := bits.isLt
  rw [octets, Bytes.toNat_ofNat, Nat.mod_eq_of_lt h]

end Address

end Router
