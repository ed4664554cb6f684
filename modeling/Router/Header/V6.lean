import Router.Address
import Router.Error

/-!
# IPv6 headers

The fixed header only: its Next Header is taken as the transport protocol.
-/

namespace Router

/-- The parts of an IPv6 datagram. -/
structure V6Header where
  payloadLength : Nat
  nextHeader : Nat
  hopLimit : Nat
  source : V6Address
  destination : V6Address
  payload : List UInt8
  deriving DecidableEq, Repr

namespace V6Header

/-- Octets in the header. -/
def headerLength : Nat := 40

/-- The header at the front of a datagram. -/
def read (d : Datagram) : Except Error V6Header :=
  if h : d.length < headerLength then .error (.packetTooShort headerLength d.length)
  else
    have h : 40 ≤ d.length := Nat.le_of_not_lt h
    let version := Bytes.field d 0 1 (by omega) / 16
    if version ≠ 6 then .error (.unsupportedVersion version)
    else .ok {
      payloadLength := Bytes.field d 4 2 (by omega)
      nextHeader := Bytes.field d 6 1 (by omega)
      hopLimit := Bytes.field d 7 1 (by omega)
      source := BitVec.ofNat 128 (Bytes.field d 8 16 (by omega))
      destination := BitVec.ofNat 128 (Bytes.field d 24 16 (by omega))
      payload := d.drop headerLength }

/-- Replaces both addresses. -/
def readdress (d : Datagram) (source destination : V6Address) : Datagram :=
  Bytes.patch d 8 (Address.octets (.v6 source) ++ Address.octets (.v6 destination))

/-- A datagram whose payload length counts modulo `2 ^ 16`. -/
def build (source destination : V6Address) (nextHeader : UInt8) (payload : List UInt8) : Datagram :=
  [0x60, 0, 0, 0] ++ Bytes.ofNat 2 payload.length ++ [nextHeader, 64] ++
    Address.octets (.v6 source) ++ Address.octets (.v6 destination) ++ payload

end V6Header

end Router
