import Router.Address
import Router.Error
import Router.Header.Checksum

/-!
# IPv4 headers

Reading checks, in this order, that there are twenty octets, the version, that the header claims at least five words,
and that all of it is there. Changing the addresses recomputes the header checksum; a new datagram has a header
without options.
-/

namespace Router

/-- The parts of an IPv4 datagram. -/
structure V4Header where
  /-- Octets in the header, options included. -/
  headerLength : Nat
  totalLength : Nat
  ttl : Nat
  protocol : Nat
  source : V4Address
  destination : V4Address
  payload : List UInt8
  /-- Whether the header sums up to nothing. -/
  checksumOk : Bool
  deriving DecidableEq, Repr

namespace V4Header

/-- Octets in a header without options. -/
def minLength : Nat := 20

/-- The header at the front of a datagram. -/
def read (d : Datagram) : Except Error V4Header :=
  if h : d.length < minLength then .error (.packetTooShort minLength d.length)
  else
    have h : 20 ≤ d.length := Nat.le_of_not_lt h
    let first := Bytes.field d 0 1 (by omega)
    let headerLength := first % 16 * 4
    if first / 16 ≠ 4 then .error (.unsupportedVersion (first / 16))
    else if headerLength < minLength then .error (.malformed (.headerWords (first % 16)))
    else if d.length < headerLength then .error (.packetTooShort headerLength d.length)
    else .ok {
      headerLength
      totalLength := Bytes.field d 2 2 (by omega)
      ttl := Bytes.field d 8 1 (by omega)
      protocol := Bytes.field d 9 1 (by omega)
      source := BitVec.ofNat 32 (Bytes.field d 12 4 (by omega))
      destination := BitVec.ofNat 32 (Bytes.field d 16 4 (by omega))
      payload := d.drop headerLength
      checksumOk := Checksum.of (d.take headerLength) = 0 }

/-- Stores the checksum of the first `headerLength` octets, its own two counted as zero. -/
def stamp (d : Datagram) (headerLength : Nat) : Datagram :=
  let cleared := Bytes.patch d 10 [0, 0]
  Bytes.patch cleared 10 (Checksum.octets (Checksum.of (cleared.take headerLength)))

/-- Replaces both addresses and the header checksum. -/
def readdress (d : Datagram) (headerLength : Nat) (source destination : V4Address) : Datagram :=
  stamp (Bytes.patch d 12 (Address.octets (.v4 source) ++ Address.octets (.v4 destination))) headerLength

/-- A datagram with a header without options, whose total length counts modulo `2 ^ 16`. -/
def build (ttl protocol : UInt8) (source destination : V4Address) (payload : List UInt8) : Datagram :=
  readdress
    ([0x45, 0] ++ Bytes.ofNat 2 (minLength + payload.length) ++ [0, 0, 0x40, 0, ttl, protocol] ++
      List.replicate 10 0 ++ payload)
    minLength source destination

/-- The time to live of a new datagram. -/
def defaultTtl : UInt8 := 64

end V4Header

end Router
