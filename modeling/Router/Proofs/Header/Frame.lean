import Router.Proofs.Header.Bounds

/-!
# What other endpoints leave as it is

Other endpoints change at most the ports and the checksum of the segment, the addresses, and the checksum of an IPv4
header (`Datagram.MayChange`), and nothing at all unless both addresses are of the family of a header that is there for
the protocol (`Datagram.Fits`). The frame is shown function by function: of the segment, of the addresses, of the
datagram (`getElem?_withEndpoints`, `getElem?_readdress`).

Main statement: no octet outside these places changes, so options, payload and padding stay, and of the packet only the
endpoints in its metadata do not (`Packet.frame_withEndpoints`).
-/

namespace Router

/-! ## The segment -/

namespace Segment

/-- Where the checksum of a segment stands; none if its protocol has none, or if there is no room for it. -/
def checksumPlace? (protocol : Protocol) (length : Nat) : Option Nat :=
  match protocol with
  | .tcp => if tcpLength ≤ length then some 16 else none
  | .udp => if udpLength ≤ length then some 6 else none
  | _ => none

/-- Octets in front of what a segment carries; options of TCP count as carried. -/
def headLength : Protocol → Nat
  | .tcp => tcpLength
  | .udp => udpLength
  | _ => 0

/-- The places of a segment that other endpoints may change: the ports, if there is room for them, and the checksum. -/
def MayChange (protocol : Protocol) (length i : Nat) : Prop :=
  portsLength ≤ length ∧
    (i < portsLength ∨ ∃ offset, checksumPlace? protocol length = some offset ∧ offset ≤ i ∧ i < offset + 2)

variable {segment : List UInt8} {protocol : Protocol} {e : Endpoints} {length offset i : Nat}

theorem checksumPlace?_eq_some :
    checksumPlace? protocol length = some offset ↔
      (protocol = .tcp ∧ 20 ≤ length ∧ offset = 16) ∨ (protocol = .udp ∧ 8 ≤ length ∧ offset = 6) := by
  cases protocol with
  | tcp => by_cases h : 20 ≤ length <;> simp [checksumPlace?, tcpLength, h, eq_comm]
  | udp => by_cases h : 8 ≤ length <;> simp [checksumPlace?, udpLength, h, eq_comm]
  | icmp => simp [checksumPlace?]
  | icmpv6 => simp [checksumPlace?]
  | other => simp [checksumPlace?]

/-- There is room for the checksum behind the ports. -/
theorem room_of_checksumPlace? (h : checksumPlace? protocol length = some offset) : 4 ≤ offset ∧ offset + 2 ≤ length := by
  obtain ⟨-, hroom, rfl⟩ | ⟨-, hroom, rfl⟩ := checksumPlace?_eq_some.1 h <;> omega

theorem withEndpoints_of_none (hroom : 4 ≤ segment.length) (h : checksumPlace? protocol segment.length = none)
    (e : Endpoints) : withEndpoints segment protocol e = Bytes.patch segment 0 (portOctets e) := by
  have hl := length_renumbered hroom e
  unfold withEndpoints portsLength
  rw [if_neg (by omega), ← portOctets]
  cases protocol with
  | tcp =>
    have hshort : segment.length < tcpLength := by simpa [checksumPlace?] using h
    exact if_pos (by rw [hl]; exact hshort)
  | udp =>
    have hshort : segment.length < udpLength := by simpa [checksumPlace?] using h
    exact if_pos (by rw [hl]; exact hshort)
  | icmp => rfl
  | icmpv6 => rfl
  | other => rfl

/-- Where there is a checksum it is written behind the ports; none over IPv4 counts as one that is written again. -/
theorem withEndpoints_of_some (h : checksumPlace? protocol segment.length = some offset) (e : Endpoints) :
    ∃ word, word.length = 2 ∧
      withEndpoints segment protocol e = Bytes.patch (Bytes.patch segment 0 (portOctets e)) offset word := by
  obtain ⟨rfl, hroom, rfl⟩ | ⟨rfl, hroom, rfl⟩ := checksumPlace?_eq_some.1 h
  · have hl := length_renumbered (show 4 ≤ segment.length by omega) e
    rw [withEndpoints_tcp hroom, stamp_eq (by omega)]
    exact ⟨_, Checksum.length_octets _, rfl⟩
  · have hl := length_renumbered (show 4 ≤ segment.length by omega) e
    rw [withEndpoints_udp hroom]
    split
    · refine ⟨((Bytes.patch segment 0 (portOctets e)).drop 6).take 2, ?_, (Bytes.patch_self (by omega)).symm⟩
      rw [List.length_take, List.length_drop]
      omega
    · rw [stamp_eq (by omega)]
      exact ⟨_, Checksum.length_octets _, rfl⟩

theorem getElem?_withEndpoints (h : ¬ MayChange protocol segment.length i) (e : Endpoints) :
    (withEndpoints segment protocol e)[i]? = segment[i]? := by
  by_cases hroom : 4 ≤ segment.length
  · have hports := length_portOctets e
    have hl := length_renumbered hroom e
    have hbehind : 4 ≤ i := Nat.le_of_not_lt fun hi => h ⟨hroom, .inl hi⟩
    have hrenumbered : (Bytes.patch segment 0 (portOctets e))[i]? = segment[i]? := by
      rw [Bytes.getElem?_patch (by omega), if_neg (by omega)]
    cases hplace : checksumPlace? protocol segment.length with
    | none => rw [withEndpoints_of_none hroom hplace, hrenumbered]
    | some offset =>
      obtain ⟨word, hword, he⟩ := withEndpoints_of_some hplace e
      have hinside := room_of_checksumPlace? hplace
      have hbeside : ¬ (offset ≤ i ∧ i < offset + 2) := fun hi => h ⟨hroom, .inr ⟨offset, hplace, hi⟩⟩
      rw [he, Bytes.getElem?_patch (by omega), hword, if_neg hbeside, hrenumbered]
  · rw [withEndpoints_of_short (Nat.lt_of_not_le hroom)]

/-- What may change lies in the header of the segment, and inside the segment. -/
theorem MayChange.bounds (h : MayChange protocol length i) (hp : protocol.hasPorts = true) :
    i < headLength protocol ∧ i < length := by
  obtain ⟨hroom, hi⟩ := h
  unfold portsLength at hroom hi
  obtain hi | ⟨offset, hplace, -, hi⟩ := hi
  · have hfour : 4 ≤ headLength protocol := by cases protocol <;> first | decide | cases hp
    omega
  · have hroom := room_of_checksumPlace? hplace
    have hhead : offset + 2 ≤ headLength protocol := by
      obtain ⟨rfl, -, rfl⟩ | ⟨rfl, -, rfl⟩ := checksumPlace?_eq_some.1 hplace <;> decide
    omega

end Segment

/-! ## The addresses -/

theorem V4Header.getElem?_readdress {d : Datagram} {headerLength i : Nat} (h : 20 ≤ d.length) (hi : ¬ (10 ≤ i ∧ i < 20))
    (source destination : V4Address) : (readdress d headerLength source destination)[i]? = d[i]? := by
  have hs := Address.length_octets_v4 source
  have hd := Address.length_octets_v4 destination
  have hreplaced := length_replaceAddresses h source destination
  obtain ⟨word, he⟩ := readdress_eq h headerLength source destination
  have hword := Checksum.length_octets word
  rw [he, Bytes.getElem?_patch (by omega), if_neg (by omega), replaceAddresses,
    Bytes.getElem?_patch (by rw [List.length_append]; omega), if_neg (by rw [List.length_append]; omega)]

theorem V6Header.getElem?_readdress {d : Datagram} {i : Nat} (h : 40 ≤ d.length) (hi : ¬ (8 ≤ i ∧ i < 40))
    (source destination : V6Address) : (readdress d source destination)[i]? = d[i]? := by
  have hs := Address.length_octets_v6 source
  have hd := Address.length_octets_v6 destination
  rw [readdress, Bytes.getElem?_patch (by rw [List.length_append]; omega),
    if_neg (by rw [List.length_append]; omega)]

/-- No datagram has headers of both families. -/
theorem V4Header.not_read_v6 {d : Datagram} {header : V4Header} {other : V6Header} (h : read d = .ok header) :
    ¬ V6Header.read d = .ok other := by
  intro h6
  obtain ⟨-, hfour, -⟩ := read_eq_ok_iff.1 h
  obtain ⟨-, hsix, -⟩ := V6Header.read_eq_ok_iff.1 h6
  omega

/-! ## The datagram -/

/-- Whether both addresses are of a family. -/
def Endpoints.OfFamily (e : Endpoints) (isV4 : Bool) : Prop :=
  e.source.isV4 = isV4 ∧ e.destination.isV4 = isV4

namespace Datagram

/-- That a datagram has an IPv4 header for a protocol. -/
structure HasV4 (d : Datagram) (protocol : Protocol) (header : V4Header) : Prop where
  read : V4Header.read d = .ok header
  protocol : Protocol.ofNumber header.protocol = protocol

/-- That a datagram has an IPv6 header for a protocol. -/
structure HasV6 (d : Datagram) (protocol : Protocol) (header : V6Header) : Prop where
  read : V6Header.read d = .ok header
  protocol : Protocol.ofNumber header.nextHeader = protocol

/-- That a datagram has a header for a protocol, and both addresses are of its family. -/
def Fits (d : Datagram) (protocol : Protocol) (e : Endpoints) : Prop :=
  (e.OfFamily true ∧ ∃ header, d.HasV4 protocol header) ∨ (e.OfFamily false ∧ ∃ header, d.HasV6 protocol header)

/-- The places of a datagram that other endpoints may change. -/
inductive MayChange (d : Datagram) (protocol : Protocol) (e : Endpoints) (i : Nat) : Prop
  /-- The checksum and the addresses of an IPv4 header. -/
  | v4Header {header : V4Header} (family : e.OfFamily true) (has : d.HasV4 protocol header) (inside : 10 ≤ i ∧ i < 20)
  /-- The ports and the checksum of the segment that it declares. -/
  | v4Segment {header : V4Header} (family : e.OfFamily true) (has : d.HasV4 protocol header)
      (ports : protocol.hasPorts = true) (behind : header.headerLength ≤ i)
      (inside : Segment.MayChange protocol (header.segment d).length (i - header.headerLength))
  /-- The addresses of an IPv6 header. -/
  | v6Header {header : V6Header} (family : e.OfFamily false) (has : d.HasV6 protocol header) (inside : 8 ≤ i ∧ i < 40)
  /-- The ports and the checksum of the segment that it declares. -/
  | v6Segment {header : V6Header} (family : e.OfFamily false) (has : d.HasV6 protocol header)
      (ports : protocol.hasPorts = true) (behind : V6Header.headerLength ≤ i)
      (inside : Segment.MayChange protocol (header.segment d).length (i - V6Header.headerLength))

variable {d : Datagram} {protocol : Protocol} {e : Endpoints} {start stop i : Nat}

/-- A datagram that does not fit stays as it is. -/
theorem withEndpoints_of_not_fits (h : ¬ d.Fits protocol e) : withEndpoints d protocol e = d := by
  unfold withEndpoints
  split
  · rename_i source destination hs hd
    have family : e.OfFamily true := ⟨by rw [hs]; rfl, by rw [hd]; rfl⟩
    split
    · rename_i header hr
      exact if_neg fun hp => h (.inl ⟨family, header, hr, hp⟩)
    · rfl
  · rename_i source destination hs hd
    have family : e.OfFamily false := ⟨by rw [hs]; rfl, by rw [hd]; rfl⟩
    split
    · rename_i header hr
      exact if_neg fun hp => h (.inr ⟨family, header, hr, hp⟩)
    · rfl
  · rfl

theorem HasV4.withEndpoints_eq {header : V4Header} (has : d.HasV4 protocol header) (family : e.OfFamily true) :
    ∃ source destination, e.source = .v4 source ∧ e.destination = .v4 destination ∧
      withEndpoints d protocol e =
        V4Header.readdress (changeSegment d header.headerLength (v4SegmentEnd header d.length) protocol e)
          header.headerLength source destination := by
  obtain ⟨source, hs⟩ := Address.isV4_eq_true.1 family.1
  obtain ⟨destination, hd⟩ := Address.isV4_eq_true.1 family.2
  exact ⟨source, destination, hs, hd, withEndpoints_v4 has.read has.protocol hs hd⟩

theorem HasV6.withEndpoints_eq {header : V6Header} (has : d.HasV6 protocol header) (family : e.OfFamily false) :
    ∃ source destination, e.source = .v6 source ∧ e.destination = .v6 destination ∧
      withEndpoints d protocol e =
        V6Header.readdress (changeSegment d V6Header.headerLength (v6SegmentEnd header d.length) protocol e)
          source destination := by
  obtain ⟨source, hs⟩ := Address.isV4_eq_false.1 family.1
  obtain ⟨destination, hd⟩ := Address.isV4_eq_false.1 family.2
  exact ⟨source, destination, hs, hd, withEndpoints_v6 has.read has.protocol hs hd⟩

theorem getElem?_changeSegment (h : start ≤ stop) (hs : stop ≤ d.length)
    (hi : protocol.hasPorts = true → start ≤ i → ¬ Segment.MayChange protocol (stop - start) (i - start)) :
    (changeSegment d start stop protocol e)[i]? = d[i]? := by
  have hlength (segment : List UInt8) := Segment.length_withEndpoints segment protocol e
  have hsegment : ((d.take stop).drop start).length = stop - start := by
    rw [List.length_drop, Bytes.length_take_of_le hs]
  unfold changeSegment
  split
  · rename_i hp
    rw [← Bytes.patch_slice hlength h hs, Bytes.getElem?_patch (by rw [hlength, hsegment]; omega), hlength, hsegment]
    split
    · rename_i hinside
      rw [Segment.getElem?_withEndpoints (by rw [hsegment]; exact hi hp hinside.1), List.getElem?_drop,
        List.getElem?_take_of_lt (by omega)]
      congr 1
      omega
    · rfl
  · rfl

theorem length_segment_v4 {header : V4Header} (h : V4Header.read d = .ok header) :
    (header.segment d).length = v4SegmentEnd header d.length - header.headerLength := by
  obtain ⟨-, -, hstop⟩ := v4Segment_bounds h
  rw [V4Header.segment, List.length_drop, Bytes.length_take_of_le hstop]

theorem length_segment_v6 {header : V6Header} (h : V6Header.read d = .ok header) :
    (header.segment d).length = v6SegmentEnd header d.length - V6Header.headerLength := by
  obtain ⟨-, -, hstop⟩ := v6Segment_bounds h
  rw [V6Header.segment, List.length_drop, Bytes.length_take_of_le hstop]

theorem length_withEndpoints (d : Datagram) (protocol : Protocol) (e : Endpoints) :
    (withEndpoints d protocol e).length = d.length := by
  by_cases hfits : d.Fits protocol e
  · obtain ⟨family, header, has⟩ | ⟨family, header, has⟩ := hfits
    · obtain ⟨source, destination, -, -, he⟩ := has.withEndpoints_eq family
      obtain ⟨hmin, hstart, hstop⟩ := v4Segment_bounds has.read
      have hchanged := length_changeSegment protocol e hstart hstop
      rw [he, V4Header.length_readdress (by omega), hchanged]
    · obtain ⟨source, destination, -, -, he⟩ := has.withEndpoints_eq family
      obtain ⟨hmin, hstart, hstop⟩ := v6Segment_bounds has.read
      have hchanged := length_changeSegment protocol e hstart hstop
      rw [he, V6Header.length_readdress (by omega), hchanged]
  · rw [withEndpoints_of_not_fits hfits]

/-- What is in none of the places that may change stays. -/
theorem getElem?_withEndpoints (h : ¬ d.MayChange protocol e i) : (withEndpoints d protocol e)[i]? = d[i]? := by
  by_cases hfits : d.Fits protocol e
  · obtain ⟨family, header, has⟩ | ⟨family, header, has⟩ := hfits
    · obtain ⟨source, destination, -, -, he⟩ := has.withEndpoints_eq family
      obtain ⟨hmin, hstart, hstop⟩ := v4Segment_bounds has.read
      have hchanged := length_changeSegment protocol e hstart hstop
      rw [he, V4Header.getElem?_readdress (by omega) fun hi => h (.v4Header family has hi)]
      refine getElem?_changeSegment hstart hstop fun hp hbehind hi => h (.v4Segment family has hp hbehind ?_)
      rwa [length_segment_v4 has.read]
    · obtain ⟨source, destination, -, -, he⟩ := has.withEndpoints_eq family
      obtain ⟨hmin, hstart, hstop⟩ := v6Segment_bounds has.read
      have hchanged := length_changeSegment protocol e hstart hstop
      rw [he, V6Header.getElem?_readdress (by omega) fun hi => h (.v6Header family has hi)]
      refine getElem?_changeSegment hstart hstop fun hp hbehind hi => h (.v6Segment family has hp hbehind ?_)
      rwa [length_segment_v6 has.read]
  · rw [withEndpoints_of_not_fits hfits]

/-! ## Options, payload and padding -/

/-- Over IPv4, what may change lies in the first twenty octets or in the header of the declared segment. -/
theorem MayChange.bounds_v4 {header : V4Header} (h : d.MayChange protocol e i) (hr : V4Header.read d = .ok header) :
    i < 20 ∨ (header.headerLength ≤ i ∧ i < header.headerLength + Segment.headLength protocol ∧
      i < v4SegmentEnd header d.length) := by
  cases h with
  | v4Header family has inside => exact .inl inside.2
  | v4Segment family has ports behind inside =>
    cases has.read.symm.trans hr
    have hsegment := length_segment_v4 hr
    obtain ⟨hhead, hlength⟩ := inside.bounds ports
    exact .inr ⟨behind, by omega, by omega⟩
  | v6Header family has inside => exact absurd has.read (V4Header.not_read_v6 hr)
  | v6Segment family has ports behind inside => exact absurd has.read (V4Header.not_read_v6 hr)

/-- Over IPv6, in the header or in that of the declared segment. -/
theorem MayChange.bounds_v6 {header : V6Header} (h : d.MayChange protocol e i) (hr : V6Header.read d = .ok header) :
    i < V6Header.headerLength + Segment.headLength protocol ∧ i < v6SegmentEnd header d.length := by
  obtain ⟨-, hstart, -⟩ := v6Segment_bounds hr
  unfold V6Header.headerLength at *
  cases h with
  | v4Header family has inside => exact absurd hr (V4Header.not_read_v6 has.read)
  | v4Segment family has ports behind inside => exact absurd hr (V4Header.not_read_v6 has.read)
  | v6Header family has inside => omega
  | v6Segment family has ports behind inside =>
    cases has.read.symm.trans hr
    have hsegment := length_segment_v6 hr
    unfold V6Header.headerLength at *
    obtain ⟨hhead, hlength⟩ := inside.bounds ports
    omega

end Datagram

/-- That a datagram has the options of another behind its IPv4 header, carries the same, and is padded with the same. -/
structure V4Header.SameRest (header : V4Header) (protocol : Protocol) (d after : Datagram) : Prop where
  options : (after.take header.headerLength).drop minLength = (d.take header.headerLength).drop minLength
  payload : (after.take (Datagram.v4SegmentEnd header d.length)).drop
      (header.headerLength + Segment.headLength protocol) =
    (d.take (Datagram.v4SegmentEnd header d.length)).drop (header.headerLength + Segment.headLength protocol)
  padding : after.drop (Datagram.v4SegmentEnd header d.length) = d.drop (Datagram.v4SegmentEnd header d.length)

/-- That a datagram carries the same as another behind its IPv6 header, and is padded with the same. -/
structure V6Header.SameRest (header : V6Header) (protocol : Protocol) (d after : Datagram) : Prop where
  payload : (after.take (Datagram.v6SegmentEnd header d.length)).drop
      (V6Header.headerLength + Segment.headLength protocol) =
    (d.take (Datagram.v6SegmentEnd header d.length)).drop (V6Header.headerLength + Segment.headLength protocol)
  padding : after.drop (Datagram.v6SegmentEnd header d.length) = d.drop (Datagram.v6SegmentEnd header d.length)

namespace Datagram

variable {d : Datagram}

theorem sameRest_v4 {header : V4Header} (hr : V4Header.read d = .ok header) (protocol : Protocol) (e : Endpoints) :
    header.SameRest protocol d (withEndpoints d protocol e) := by
  obtain ⟨hmin, hstart, hstop⟩ := v4Segment_bounds hr
  have hkept {i : Nat} (hi : 20 ≤ i) (hbeside : i < header.headerLength ∨
      header.headerLength + Segment.headLength protocol ≤ i ∨ v4SegmentEnd header d.length ≤ i) :
      (withEndpoints d protocol e)[i]? = d[i]? := by
    refine getElem?_withEndpoints fun h => ?_
    have := h.bounds_v4 hr
    omega
  refine ⟨?_, ?_, ?_⟩
  · exact Bytes.slice_congr fun i hi hlt => hkept hi (.inl hlt)
  · exact Bytes.slice_congr fun i hi _ => hkept (by omega) (.inr (.inl hi))
  · exact Bytes.drop_congr fun i hi => hkept (by omega) (.inr (.inr hi))

theorem sameRest_v6 {header : V6Header} (hr : V6Header.read d = .ok header) (protocol : Protocol) (e : Endpoints) :
    header.SameRest protocol d (withEndpoints d protocol e) := by
  refine ⟨?_, ?_⟩
  · refine Bytes.slice_congr fun i hi _ => getElem?_withEndpoints fun h => ?_
    have := (h.bounds_v6 hr).1
    omega
  · refine Bytes.drop_congr fun i hi => getElem?_withEndpoints fun h => ?_
    have := (h.bounds_v6 hr).2
    omega

end Datagram

/-! ## The packet -/

namespace Packet

/-- A packet under other endpoints: every cut and every write stays inside the buffer, nothing but the endpoints of the
metadata changes beside the datagram, the datagram is as long as before, no octet changes in any but the places that may
change, and none at all unless the packet has a header for its protocol and both addresses are of its family. So
options, payload and padding stay. -/
theorem frame_withEndpoints (p : Packet) (e : Endpoints) :
    Datagram.withEndpoints? p.data p.metadata.protocol e = some (p.withEndpoints e).data ∧
    (p.withEndpoints e).data.length = p.data.length ∧
    (p.withEndpoints e).metadata.protocol = p.metadata.protocol ∧
    (p.withEndpoints e).metadata.length = p.metadata.length ∧
    (p.withEndpoints e).ingress = p.ingress ∧ (p.withEndpoints e).egress = p.egress ∧
    (p.withEndpoints e).ticket = p.ticket ∧
    (∀ i, ¬ p.data.MayChange p.metadata.protocol e i → (p.withEndpoints e).data[i]? = p.data[i]?) ∧
    (¬ p.data.Fits p.metadata.protocol e → (p.withEndpoints e).data = p.data) ∧
    (∀ header, V4Header.read p.data = .ok header →
      header.SameRest p.metadata.protocol p.data (p.withEndpoints e).data) ∧
    (∀ header, V6Header.read p.data = .ok header →
      header.SameRest p.metadata.protocol p.data (p.withEndpoints e).data) := by
  refine ⟨?_, ?_, rfl, rfl, rfl, rfl, rfl, ?_, ?_, ?_, ?_⟩
  · exact Datagram.withEndpoints?_eq p.data p.metadata.protocol e
  · exact Datagram.length_withEndpoints p.data p.metadata.protocol e
  · exact fun i h => Datagram.getElem?_withEndpoints h
  · exact Datagram.withEndpoints_of_not_fits
  · exact fun header hr => Datagram.sameRest_v4 hr p.metadata.protocol e
  · exact fun header hr => Datagram.sameRest_v6 hr p.metadata.protocol e

/-- Options, an odd segment and padding stay, and between two families all of the datagram does. -/
theorem optioned_keeps_rest :
    let outside := (optioned.withEndpoints ⟨.v4 0xCB00710A, 40000, .v4 0x08080808, 80⟩).data
    (outside.take 24).drop 20 = [1, 1, 1, 0] ∧ (outside.take 45).drop 44 = [0x68] ∧
      outside.drop 45 = [0xFF, 0xFF, 0xFF] ∧
      (optioned.withEndpoints ⟨.v4 0xCB00710A, 40000, .v6 1, 80⟩).data = optioned.data := by
  obtain ⟨-, -, -, -, -, -, -, -, -, hrest, -⟩ :=
    frame_withEndpoints optioned ⟨.v4 0xCB00710A, 40000, .v4 0x08080808, 80⟩
  obtain ⟨-, -, -, -, -, -, -, -, hmixed, -, -⟩ := frame_withEndpoints optioned ⟨.v4 0xCB00710A, 40000, .v6 1, 80⟩
  have hsame := hrest _ rfl
  refine ⟨hsame.options, hsame.payload, hsame.padding, hmixed ?_⟩
  rintro (⟨⟨-, h⟩, -⟩ | ⟨⟨h, -⟩, -⟩) <;> cases h

end Packet

end Router
