import Router.Address.Text
import Router.Packet
import Router.Text.Notation

/-!
# Describing a packet

One line of text for diagnostics, with every field by name and whether the ticket is still held.
-/

namespace Router

open Router.Text

/-- The name of a protocol in diagnostics. -/
def Protocol.label : Protocol → String
  | .tcp => "Tcp"
  | .udp => "Udp"
  | .icmp => "Icmp"
  | .icmpv6 => "Icmpv6"
  | .other => "Other"

/-- An address in diagnostics, or that there is none. -/
def Address.describe? : Option Address → String
  | some a => s!"Some({a})"
  | none => "None"

/-- Metadata in diagnostics. -/
def Metadata.describe (m : Metadata) : String :=
  describeRecord "PacketMetadata" [
    ("src_ip", Address.describe? m.source),
    ("dst_ip", Address.describe? m.destination),
    ("protocol", m.protocol.label),
    ("src_port", toString m.sourcePort.toNat),
    ("dst_port", toString m.destinationPort.toNat),
    ("length", toString m.length)]

/-- A packet in diagnostics. -/
def Packet.describe (p : Packet) : String :=
  describeRecord "Packet" [
    ("len", toString p.length),
    ("ingress", Quoted.quote p.ingress),
    ("egress", Quoted.quote p.egress),
    ("meta", p.metadata.describe),
    ("pending_release", if p.ticket.isSome then "true" else "false")]

end Router
