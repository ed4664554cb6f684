import Router.Address
import Router.Error
import Router.Protocol
import Router.Header.Checksum

/-!
# TCP and UDP segments

Of a segment only the pair of ports and the checksum are touched. The checksum covers a pseudo-header with both
addresses, the protocol and the length.
-/

namespace Router

/-- A pair of addresses and ports, as a segment travels from one to the other. -/
structure Endpoints where
  source : Address
  sourcePort : UInt16
  destination : Address
  destinationPort : UInt16
  deriving DecidableEq, Repr

/-- The endpoints of the way back. -/
def Endpoints.reverse (e : Endpoints) : Endpoints :=
  ⟨e.destination, e.destinationPort, e.source, e.sourcePort⟩

@[simp] theorem Endpoints.reverse_reverse (e : Endpoints) : e.reverse.reverse = e := rfl

namespace Segment

/-- Octets in the pair of ports. -/
def portsLength : Nat := 4

/-- Octets in a TCP header without options. -/
def tcpLength : Nat := 20

/-- Octets in a UDP header. -/
def udpLength : Nat := 8

/-- The protocol number of TCP. -/
def tcpNumber : UInt8 := 6

/-- The protocol number of UDP. -/
def udpNumber : UInt8 := 17

/-- The source and destination port at the front of a segment. -/
def ports (segment : List UInt8) : Except Error (UInt16 × UInt16) :=
  if h : segment.length < portsLength then .error (.packetTooShort portsLength segment.length)
  else
    have h : 4 ≤ segment.length := Nat.le_of_not_lt h
    .ok (UInt16.ofNat (Bytes.field segment 0 2 (by omega)), UInt16.ofNat (Bytes.field segment 2 2 (by omega)))

/-- The sum of the pseudo-header. Two IPv4 addresses make the IPv4 form; otherwise it is the IPv6 form, with an IPv4
address mapped into IPv6 and the length in two words. -/
def pseudoSum (source destination : Address) (protocol : UInt8) (length : Nat) : UInt32 :=
  let length := UInt32.ofNat length
  if source.isV4 && destination.isV4 then
    Checksum.addWords (source.octets ++ destination.octets) 0 + protocol.toUInt32 + length
  else
    Checksum.addWords (source.mappedOctets ++ destination.mappedOctets) 0 + (length >>> (16 : UInt32)) +
      (length &&& (0xFFFF : UInt32)) + protocol.toUInt32

/-- The checksum of a segment behind its pseudo-header. -/
def checksum (source destination : Address) (protocol : UInt8) (segment : List UInt8) : UInt16 :=
  ~~~ Checksum.fold (Checksum.addWords segment (pseudoSum source destination protocol segment.length))

/-- Stores a checksum at `offset`, computed with those two octets as zero and then adjusted. -/
def stamp (segment : List UInt8) (offset : Nat) (number : UInt8) (e : Endpoints) (adjust : UInt16 → UInt16) :
    List UInt8 :=
  let cleared := Bytes.patch segment offset [0, 0]
  Bytes.patch cleared offset
    (Checksum.octets (adjust (checksum e.source e.destination number cleared)))

/-- A UDP checksum of zero is sent as all ones, since zero means that there is none. -/
def nonZero (sum : UInt16) : UInt16 :=
  if sum = 0 then 0xFFFF else sum

/-- Replaces the ports of a segment and, where the header is complete, its checksum. A UDP segment without checksum
over IPv4 stays without. -/
def withEndpoints (segment : List UInt8) (protocol : Protocol) (e : Endpoints) : List UInt8 :=
  if segment.length < portsLength then segment
  else
    let renumbered := Bytes.patch segment 0 (Bytes.ofNat 2 e.sourcePort.toNat ++ Bytes.ofNat 2 e.destinationPort.toNat)
    match protocol with
    | .tcp => if renumbered.length < tcpLength then renumbered else stamp renumbered 16 tcpNumber e id
    | .udp =>
      if renumbered.length < udpLength then renumbered
      else if (renumbered.drop 6).take 2 = [0, 0] ∧ e.source.isV4 then renumbered
      else stamp renumbered 6 udpNumber e nonZero
    | _ => renumbered

/-- A TCP segment that opens a connection: no options, checksum zero. -/
def tcp (sourcePort destinationPort : UInt16) (payload : List UInt8) : List UInt8 :=
  Bytes.ofNat 2 sourcePort.toNat ++ Bytes.ofNat 2 destinationPort.toNat ++
    [0, 0, 0, 0, 0, 0, 0, 0, 0x50, 0x02, 0x72, 0x10, 0, 0, 0, 0] ++ payload

/-- A UDP segment without checksum, whose length counts modulo `2 ^ 16`. -/
def udp (sourcePort destinationPort : UInt16) (payload : List UInt8) : List UInt8 :=
  Bytes.ofNat 2 sourcePort.toNat ++ Bytes.ofNat 2 destinationPort.toNat ++
    Bytes.ofNat 2 (udpLength + payload.length) ++ [0, 0] ++ payload

end Segment

end Router
