import Router.Packet
import Router.Text.Fields
import Router.Text.Blank

/-!
# Captures

A capture hands out datagrams that were loaded before and keeps those that are sent. It gives each packet a ticket and
takes tickets back. Its text form has one datagram in hexadecimal per line; blanks do not count, and a `#` starts a
comment. How hexadecimal text is read is left to a reader that it is given.
-/

namespace Router

/-- A datagram as it left through an interface. -/
structure Frame where
  egress : String
  data : Datagram
  deriving DecidableEq, Repr

/-- The frame that a packet leaves as. -/
def Packet.frame (p : Packet) : Frame :=
  ⟨p.egress, p.data⟩

/-- What the next read of a source brings. -/
inductive Arrival
  | datagram (data : Datagram)
  | fault (error : Error)
  deriving DecidableEq, Repr

/-- The packet of an arrival, with its ticket, or why there is none. -/
def Arrival.read (a : Arrival) (ingress : String) (ticket : Nat) : Except Error Packet :=
  match a with
  | .datagram data => (Packet.read data ingress).map fun p => p.withTicket ticket
  | .fault error => .error error

/-- A source and sink of packets in memory. -/
structure Capture where
  ingress : String
  pending : List Arrival
  /-- What was sent, in order. -/
  written : List Frame
  /-- Packets read; the ticket of the next one. -/
  handedOut : Nat
  /-- Tickets handed in, in order. -/
  released : List Nat
  deriving DecidableEq, Repr

/-- What reads hexadecimal text: its octets, or the wording of what is wrong with it. -/
abbrev HexReader :=
  String → Except String (List UInt8)

namespace Capture

/-- A capture of datagrams that arrive through an interface. -/
def ofDatagrams (ingress : String) (datagrams : List Datagram) : Capture :=
  ⟨ingress, datagrams.map .datagram, [], 0, []⟩

/-- The hexadecimal digits of a line. -/
def digits (line : List Char) : List Char :=
  (line.takeWhile (· ≠ '#')).filter fun c => !Text.isBlank c

/-- The datagrams of the lines from a number on. -/
def datagrams (decode : HexReader) : (number : Nat) → List (List Char) → Except Error (List Datagram)
  | _, [] => .ok []
  | number, line :: rest =>
    if digits line = [] then datagrams decode (number + 1) rest
    else
      match decode (String.ofList (digits line)) with
      | .error reason => .error (.malformed (.captureLine number reason))
      | .ok data => (datagrams decode (number + 1) rest).map (data :: ·)

/-- The capture of a text. -/
def ofText (decode : HexReader) (ingress : String) (text : String) : Except Error Capture :=
  (datagrams decode 1 (Text.fields '\n' text.toList)).map (ofDatagrams ingress)

/-- The capture with one more datagram at the end. -/
def push (c : Capture) (data : Datagram) : Capture :=
  { c with pending := c.pending ++ [.datagram data] }

/-- The next packet with its ticket, or why there is none, and the capture after it. -/
def read (c : Capture) : Except Error Packet × Capture :=
  match c.pending with
  | [] => (.error .closed, c)
  | arrival :: pending =>
    match arrival.read c.ingress c.handedOut with
    | .ok p => (.ok p, { c with pending, handedOut := c.handedOut + 1 })
    | .error e => (.error e, { c with pending })

/-- The capture after packets were done with. -/
def release (c : Capture) (packets : List Packet) : Capture :=
  { c with released := c.released ++ tickets packets }

/-- The capture after a packet was sent, and so done with. -/
def write (c : Capture) (p : Packet) : Capture :=
  { c with written := c.written ++ [p.frame] }.release [p]

end Capture

end Router
