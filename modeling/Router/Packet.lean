import Router.Header.Segment
import Router.Header.V4
import Router.Header.V6

/-!
# Packets

A packet is a datagram with the interfaces it came in through and leaves through, the header fields that the engines
match on, and a ticket that has to be handed in exactly once, when whoever holds the packet is done with it.
-/

namespace Router

/-! ## Metadata -/

/-- The header fields that the engines match on. -/
structure Metadata where
  source : Option Address
  destination : Option Address
  protocol : Protocol
  /-- Zero when the protocol has no ports. -/
  sourcePort : UInt16
  destinationPort : UInt16
  /-- Octets in the datagram. -/
  length : Nat
  deriving DecidableEq, Repr

namespace Metadata

/-- The fields of a datagram whose header is known. -/
def ofHeader (source destination : Address) (number : Nat) (segment : List UInt8) (length : Nat) :
    Except Error Metadata :=
  let protocol := Protocol.ofNumber number
  if protocol.hasPorts then
    (Segment.ports segment).map fun (sourcePort, destinationPort) =>
      ⟨some source, some destination, protocol, sourcePort, destinationPort, length⟩
  else .ok ⟨some source, some destination, protocol, 0, 0, length⟩

/-- The fields of a datagram. The first octet tells the version; then the header is read, then the ports. -/
def read (d : Datagram) : Except Error Metadata :=
  match d with
  | [] => .error (.packetTooShort 1 0)
  | first :: _ =>
    let version := first.toNat / 16
    if version = 4 then do
      let header ← V4Header.read d
      ofHeader (.v4 header.source) (.v4 header.destination) header.protocol header.payload d.length
    else if version = 6 then do
      let header ← V6Header.read d
      ofHeader (.v6 header.source) (.v6 header.destination) header.nextHeader header.payload d.length
    else .error (.unsupportedVersion version)

/-- The endpoints, if both addresses are known. -/
def endpoints? (m : Metadata) : Option Endpoints := do
  let source ← m.source
  let destination ← m.destination
  return ⟨source, m.sourcePort, destination, m.destinationPort⟩

/-- The same fields between other endpoints. -/
def withEndpoints (m : Metadata) (e : Endpoints) : Metadata :=
  { m with
    source := some e.source
    sourcePort := e.sourcePort
    destination := some e.destination
    destinationPort := e.destinationPort }

end Metadata

/-! ## Changing a datagram -/

namespace Datagram

/-- The segment from `start` to `stop` under other endpoints, if the protocol has ports. -/
def changeSegment (d : Datagram) (start stop : Nat) (protocol : Protocol) (e : Endpoints) : Datagram :=
  if protocol.hasPorts then Bytes.modify d start stop fun segment => Segment.withEndpoints segment protocol e else d

/-- Where the segment of an IPv4 datagram ends: what follows the declared total length is padding. -/
def v4SegmentEnd (header : V4Header) (available : Nat) : Nat :=
  max header.headerLength (min header.totalLength available)

/-- Where the segment of an IPv6 datagram ends: a declared length of zero means all the rest. -/
def v6SegmentEnd (header : V6Header) (available : Nat) : Nat :=
  if header.payloadLength = 0 then available else min (V6Header.headerLength + header.payloadLength) available

/-- A datagram under other endpoints. It stays as it is unless it has a header of the family of both new addresses, for
the protocol given. -/
def withEndpoints (d : Datagram) (protocol : Protocol) (e : Endpoints) : Datagram :=
  match e.source, e.destination with
  | .v4 source, .v4 destination =>
    match V4Header.read d with
    | .ok header =>
      if Protocol.ofNumber header.protocol = protocol then
        V4Header.readdress
          (changeSegment d header.headerLength (v4SegmentEnd header d.length) protocol e)
          header.headerLength source destination
      else d
    | .error _ => d
  | .v6 source, .v6 destination =>
    match V6Header.read d with
    | .ok header =>
      if Protocol.ofNumber header.nextHeader = protocol then
        V6Header.readdress
          (changeSegment d V6Header.headerLength (v6SegmentEnd header d.length) protocol e)
          source destination
      else d
    | .error _ => d
  | _, _ => d

end Datagram

/-! ## Packets -/

/-- A packet on its way through the router. -/
structure Packet where
  data : Datagram
  ingress : String
  /-- Empty as long as no interface is chosen. -/
  egress : String
  metadata : Metadata
  /-- Handed in when the packet is done with; none if there is nothing to hand in, or no longer. -/
  ticket : Option Nat
  deriving DecidableEq, Repr

namespace Packet

/-- A packet with given metadata, nothing read from the datagram. -/
def new (data : Datagram) (ingress : String) (metadata : Metadata) : Packet :=
  ⟨data, ingress, "", metadata, none⟩

/-- A packet whose metadata are read from the datagram. -/
def read (data : Datagram) (ingress : String) : Except Error Packet :=
  (Metadata.read data).map (new data ingress)

/-- The packet with a ticket to hand in. -/
def withTicket (p : Packet) (ticket : Nat) : Packet :=
  { p with ticket := some ticket }

/-- The packet after its ticket was handed in. -/
def release (p : Packet) : Packet :=
  { p with ticket := none }

/-- Octets in the datagram. -/
def length (p : Packet) : Nat :=
  p.data.length

/-- The packet between other endpoints: always in the metadata, and in the datagram where it has such a header. -/
def withEndpoints (p : Packet) (e : Endpoints) : Packet :=
  { p with
    metadata := p.metadata.withEndpoints e
    data := Datagram.withEndpoints p.data p.metadata.protocol e }

end Packet

/-- The tickets that a list of packets still holds, in order. -/
def tickets (packets : List Packet) : List Nat :=
  packets.filterMap Packet.ticket

end Router
