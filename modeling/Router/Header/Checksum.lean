import Router.Bytes

/-!
# The one's complement checksum

Octets are summed as 16-bit words, an odd last octet padded with zero, in a 32-bit accumulator; the carries go back in
at the low end, and the checksum is the complement of what is left. Main statement: after two end-around carries
nothing is left above the low 16 bits (`carry_carry_lt`).
-/

namespace Router.Checksum

/-- Adds the 16-bit words of the octets to an accumulator. -/
def addWords : List UInt8 → UInt32 → UInt32
  | [], acc => acc
  | [last], acc => acc + last.toUInt32 * 256
  | a :: b :: rest, acc => addWords rest (acc + (a.toUInt32 * 256 + b.toUInt32))

/-- Brings what is above the low 16 bits back in at the low end. -/
def carry (sum : UInt32) : UInt32 :=
  (sum &&& (0xFFFF : UInt32)) + (sum >>> (16 : UInt32))

/-- A sum in 16 bits, by end-around carries; two are enough. -/
def fold (sum : UInt32) : UInt16 :=
  (carry (carry sum)).toUInt16

/-- The checksum of octets. -/
def of (bytes : List UInt8) : UInt16 :=
  ~~~ fold (addWords bytes 0)

/-- A 16-bit word as two octets. -/
def octets (word : UInt16) : List UInt8 :=
  Bytes.ofNat 2 word.toNat

theorem toNat_low (sum : UInt32) : (sum &&& (0xFFFF : UInt32)).toNat = sum.toNat % 65536 := by
  rw [UInt32.toNat_and]
  exact Nat.and_two_pow_sub_one_eq_mod sum.toNat 16

theorem toNat_high (sum : UInt32) : (sum >>> (16 : UInt32)).toNat = sum.toNat / 65536 := by
  rw [UInt32.toNat_shiftRight]
  exact Nat.shiftRight_eq_div_pow sum.toNat 16

theorem toNat_carry (sum : UInt32) : (carry sum).toNat = sum.toNat % 65536 + sum.toNat / 65536 := by
  have hlt := sum.toNat_lt
  rw [carry, UInt32.toNat_add, toNat_low, toNat_high]
  omega

theorem carry_carry_lt (sum : UInt32) : (carry (carry sum)).toNat < 65536 := by
  have hlt := sum.toNat_lt
  rw [toNat_carry, toNat_carry]
  omega

end Router.Checksum
