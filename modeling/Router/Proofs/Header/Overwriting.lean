import Router.Proofs.Header.Frame

/-!
# Endpoints that are replaced twice

Other endpoints are computed from octets that none of them changes, but for one: whether a UDP segment over IPv4 has a
checksum, and a checksum that was written is never zero. So of two changes the last one counts
(`Segment.withEndpoints_withEndpoints`, `V4Header.readdress_readdress`), and since a segment and its addresses do not
touch each other (`V4Header.readdress_patch`, `V6Header.readdress_patch`) this holds of the datagram.

Main statement: under endpoints of its own family a packet is what it would be if it had not been under others before
(`Packet.withEndpoints_withEndpoints`); a change made twice is made once (`Packet.withEndpoints_idem`).
-/

namespace Router

/-! ## The segment -/

namespace Segment

variable {segment word : List UInt8} {protocol : Protocol} {a b : Endpoints} {offset : Nat}

/-- The octets that are cleared before a checksum is computed do not count. -/
theorem stamp_patch (h : offset + 2 ≤ segment.length) (hw : word.length = 2) (number : UInt8) (e : Endpoints)
    (adjust : UInt16 → UInt16) :
    stamp (Bytes.patch segment offset word) offset number e adjust = stamp segment offset number e adjust := by
  have hcleared : Bytes.patch (Bytes.patch segment offset word) offset [0, 0] = Bytes.patch segment offset [0, 0] :=
    Bytes.patch_patch (by omega) hw.symm
  rw [stamp, stamp, hcleared]

/-- A segment that was stamped is stamped for other endpoints as if it had not been. -/
theorem stamp_renumbered (hfirst : 4 ≤ offset) (h : offset + 2 ≤ segment.length) (number : UInt8)
    (adjust : UInt16 → UInt16) :
    stamp (Bytes.patch (stamp (Bytes.patch segment 0 (portOctets a)) offset number a adjust) 0 (portOctets b)) offset
        number b adjust =
      stamp (Bytes.patch segment 0 (portOctets b)) offset number b adjust := by
  have ha := length_portOctets a
  have hb := length_portOctets b
  have hla := length_renumbered (show 4 ≤ segment.length by omega) a
  have hlb := length_renumbered (show 4 ≤ segment.length by omega) b
  obtain ⟨word, hword, he⟩ : ∃ word, word.length = 2 ∧ stamp (Bytes.patch segment 0 (portOctets a)) offset number a adjust =
      Bytes.patch (Bytes.patch segment 0 (portOctets a)) offset word :=
    ⟨_, Checksum.length_octets _, stamp_eq (by omega) number adjust⟩
  have hover : Bytes.patch (Bytes.patch (Bytes.patch segment 0 (portOctets a)) offset word) 0 (portOctets b) =
      Bytes.patch (Bytes.patch segment 0 (portOctets b)) offset word := by
    rw [← Bytes.patch_comm (by omega) (by omega), Bytes.patch_patch (by omega) (by omega)]
  rw [he, hover, stamp_patch (by omega) hword]

theorem withEndpoints_withEndpoints_tcp (h : 20 ≤ segment.length) (a b : Endpoints) :
    withEndpoints (withEndpoints segment .tcp a) .tcp b = withEndpoints segment .tcp b := by
  have hl := length_withEndpoints segment .tcp a
  rw [withEndpoints_tcp (by omega) b, withEndpoints_tcp h a, withEndpoints_tcp h b]
  exact stamp_renumbered (by decide) (by omega) tcpNumber id

/-- A UDP segment over IPv4 has a checksum afterwards exactly if it had one. -/
theorem withEndpoints_withEndpoints_udp (h : 8 ≤ segment.length) (hfamily : a.source.isV4 = b.source.isV4) :
    withEndpoints (withEndpoints segment .udp a) .udp b = withEndpoints segment .udp b := by
  have hl := length_withEndpoints segment .udp a
  have hla := length_renumbered (show 4 ≤ segment.length by omega) a
  rw [withEndpoints_udp (by omega) b, withEndpoints_udp h a, withEndpoints_udp h b, ← hfamily]
  by_cases hnone : udpChecksum segment = 0 ∧ a.source.isV4 = true
  · have hports : (portOctets b).length = (portOctets a).length := by rw [length_portOctets, length_portOctets]
    rw [if_pos hnone, udpChecksum_renumbered, if_pos hnone, if_pos hnone, Bytes.patch_patch ?_ hports]
    rw [length_portOctets]
    omega
  · have hsome := udpChecksum_stamp (show 8 ≤ (Bytes.patch segment 0 (portOctets a)).length by omega) udpNumber a
    rw [if_neg hnone, if_neg hnone, if_neg fun hc => hsome hc.1]
    exact stamp_renumbered (by decide) (by omega) udpNumber nonZero

/-- Of two changes of a segment between endpoints of one family the last one counts. -/
theorem withEndpoints_withEndpoints (segment : List UInt8) (protocol : Protocol)
    (hfamily : a.source.isV4 = b.source.isV4) :
    withEndpoints (withEndpoints segment protocol a) protocol b = withEndpoints segment protocol b := by
  by_cases hroom : 4 ≤ segment.length
  · have hl := length_withEndpoints segment protocol a
    cases hplace : checksumPlace? protocol segment.length with
    | none =>
      have ha := length_portOctets a
      have hb := length_portOctets b
      rw [withEndpoints_of_none (by omega) (by rw [hl]; exact hplace) b, withEndpoints_of_none hroom hplace a,
        withEndpoints_of_none hroom hplace b, Bytes.patch_patch (by omega) (by omega)]
    | some offset =>
      obtain ⟨rfl, hlong, -⟩ | ⟨rfl, hlong, -⟩ := checksumPlace?_eq_some.1 hplace
      · exact withEndpoints_withEndpoints_tcp hlong a b
      · exact withEndpoints_withEndpoints_udp hlong hfamily
  · have hshort : withEndpoints segment protocol a = segment := withEndpoints_of_short (Nat.lt_of_not_le hroom)
    rw [hshort]

end Segment

/-! ## The addresses -/

namespace V4Header

variable {d : Datagram} {headerLength offset : Nat} {part : List UInt8}

/-- The checksum of a header is computed with its own octets as zero. -/
theorem readdress_eq_patch (h : 20 ≤ d.length) (headerLength : Nat) (source destination : V4Address) :
    readdress d headerLength source destination =
      Bytes.patch (replaceAddresses d source destination) 10 (Checksum.octets (Checksum.of
        ((Bytes.patch (replaceAddresses d source destination) 10 [0, 0]).take headerLength))) := by
  have hl := length_replaceAddresses h source destination
  exact Bytes.patch_patch (by rw [← replaceAddresses, hl, List.length_cons, List.length_singleton]; omega)
    (Checksum.length_octets _)

theorem length_addresses (source destination : V4Address) :
    (Address.octets (.v4 source) ++ Address.octets (.v4 destination)).length = 8 := by
  rw [List.length_append, Address.length_octets_v4, Address.length_octets_v4]

/-- Of two pairs of addresses the last one counts. -/
theorem readdress_readdress (h : 20 ≤ d.length) (headerLength : Nat) (s t source destination : V4Address) :
    readdress (readdress d headerLength s t) headerLength source destination =
      readdress d headerLength source destination := by
  have hfirst := length_replaceAddresses h s t
  have hlast := length_replaceAddresses h source destination
  have hst := length_addresses s t
  have hsd := length_addresses source destination
  obtain ⟨word, he⟩ := readdress_eq h headerLength s t
  have hword := Checksum.length_octets word
  -- the addresses that were there are written over, and the checksum that was there is cleared
  have hreplaced : replaceAddresses (readdress d headerLength s t) source destination =
      Bytes.patch (replaceAddresses d source destination) 10 (Checksum.octets word) := by
    rw [he, replaceAddresses, Bytes.patch_comm (by omega) (by omega), replaceAddresses,
      Bytes.patch_patch (by omega) (by omega), replaceAddresses]
  have hcleared : Bytes.patch (replaceAddresses (readdress d headerLength s t) source destination) 10 [0, 0] =
      Bytes.patch (replaceAddresses d source destination) 10 [0, 0] := by
    rw [hreplaced]
    exact Bytes.patch_patch (by omega) hword.symm
  have hl := length_readdress h headerLength s t
  rw [readdress_eq_patch (by omega), hcleared, hreplaced, Bytes.patch_patch (by omega) ?_, readdress_eq_patch h]
  rw [hword, Checksum.length_octets]

/-- What is written behind a header does not notice other addresses. -/
theorem readdress_patch (hmin : 20 ≤ headerLength) (hbehind : headerLength ≤ offset)
    (h : offset + part.length ≤ d.length) (source destination : V4Address) :
    readdress (Bytes.patch d offset part) headerLength source destination =
      Bytes.patch (readdress d headerLength source destination) offset part := by
  have hpart : (Bytes.patch d offset part).length = d.length := Bytes.length_patch _ _ _ h
  have hl := length_replaceAddresses (show 20 ≤ d.length by omega) source destination
  have hsd := length_addresses source destination
  have hreplaced : replaceAddresses (Bytes.patch d offset part) source destination =
      Bytes.patch (replaceAddresses d source destination) offset part := by
    rw [replaceAddresses, ← Bytes.patch_comm (by omega) (by omega), replaceAddresses]
  have hcleared : Bytes.patch (Bytes.patch (replaceAddresses d source destination) offset part) 10 [0, 0] =
      Bytes.patch (Bytes.patch (replaceAddresses d source destination) 10 [0, 0]) offset part :=
    (Bytes.patch_comm (show 10 + 2 ≤ offset by omega) (by omega)).symm
  have hzeros : (Bytes.patch (replaceAddresses d source destination) 10 [0, 0]).length = d.length := by
    rw [Bytes.length_patch _ _ _ (show 10 + 2 ≤ _ by omega), hl]
  rw [readdress_eq_patch (by omega), hreplaced, hcleared, Bytes.take_patch (by omega) hbehind,
    ← Bytes.patch_comm (by rw [Checksum.length_octets]; omega) (by omega), readdress_eq_patch (by omega)]

end V4Header

namespace V6Header

variable {d : Datagram} {offset : Nat} {part : List UInt8}

theorem length_addresses (source destination : V6Address) :
    (Address.octets (.v6 source) ++ Address.octets (.v6 destination)).length = 32 := by
  rw [List.length_append, Address.length_octets_v6, Address.length_octets_v6]

theorem readdress_readdress (h : 40 ≤ d.length) (s t source destination : V6Address) :
    readdress (readdress d s t) source destination = readdress d source destination := by
  have hst := length_addresses s t
  have hsd := length_addresses source destination
  exact Bytes.patch_patch (by omega) (by omega)

theorem readdress_patch (hbehind : headerLength ≤ offset) (h : offset + part.length ≤ d.length)
    (source destination : V6Address) :
    readdress (Bytes.patch d offset part) source destination =
      Bytes.patch (readdress d source destination) offset part := by
  have hsd := length_addresses source destination
  unfold headerLength at hbehind
  rw [readdress, ← Bytes.patch_comm (by omega) h, readdress]

end V6Header

/-! ## The datagram -/

namespace Datagram

variable {d : Datagram} {protocol : Protocol} {a b e : Endpoints} {start stop : Nat}

theorem changeSegment_eq_patch (protocol : Protocol) (e : Endpoints) (h : start ≤ stop) (hs : stop ≤ d.length) :
    changeSegment d start stop protocol e =
      if protocol.hasPorts then
        Bytes.patch d start (Segment.withEndpoints ((d.take stop).drop start) protocol e)
      else d := by
  have hlength (segment : List UInt8) := Segment.length_withEndpoints segment protocol e
  rw [changeSegment, ← Bytes.patch_slice hlength h hs]

theorem length_changed (protocol : Protocol) (e : Endpoints) (h : start ≤ stop) (hs : stop ≤ d.length) :
    start + (Segment.withEndpoints ((d.take stop).drop start) protocol e).length ≤ d.length := by
  rw [Segment.length_withEndpoints, List.length_drop, Bytes.length_take_of_le hs]
  omega

theorem changeSegment_changeSegment (hfamily : a.source.isV4 = b.source.isV4) (h : start ≤ stop)
    (hs : stop ≤ d.length) :
    changeSegment (changeSegment d start stop protocol a) start stop protocol b =
      changeSegment d start stop protocol b := by
  have hl := length_changeSegment protocol a h hs
  have hroom := length_changed protocol a h hs
  have hsegment := segment_changeSegment protocol a h hs
  rw [changeSegment_eq_patch protocol b h (by omega), hsegment, changeSegment_eq_patch protocol a h hs,
    changeSegment_eq_patch protocol b h hs]
  split
  · rw [Segment.withEndpoints_withEndpoints _ _ hfamily]
    exact Bytes.patch_patch hroom (by rw [Segment.length_withEndpoints, Segment.length_withEndpoints])
  · rfl

/-- A segment and the addresses in front of it may be changed in either order. -/
theorem changeSegment_readdress_v4 (hmin : 20 ≤ start) (h : start ≤ stop) (hs : stop ≤ d.length)
    (source destination : V4Address) :
    changeSegment (V4Header.readdress d start source destination) start stop protocol e =
      V4Header.readdress (changeSegment d start stop protocol e) start source destination := by
  have hl := V4Header.length_readdress (show 20 ≤ d.length by omega) start source destination
  have hsegment : ((V4Header.readdress d start source destination).take stop).drop start = (d.take stop).drop start :=
    Bytes.drop_take_congr (V4Header.drop_readdress (by omega) hmin start source destination)
  rw [changeSegment_eq_patch protocol e h (by omega), hsegment, changeSegment_eq_patch protocol e h hs]
  split
  · exact (V4Header.readdress_patch hmin (Nat.le_refl _) (length_changed protocol e h hs) source destination).symm
  · rfl

theorem changeSegment_readdress_v6 (h : V6Header.headerLength ≤ stop) (hs : stop ≤ d.length)
    (source destination : V6Address) :
    changeSegment (V6Header.readdress d source destination) V6Header.headerLength stop protocol e =
      V6Header.readdress (changeSegment d V6Header.headerLength stop protocol e) source destination := by
  have hmin : 40 ≤ d.length := Nat.le_trans h hs
  have hl := V6Header.length_readdress hmin source destination
  have hsegment : ((V6Header.readdress d source destination).take stop).drop V6Header.headerLength =
      (d.take stop).drop V6Header.headerLength :=
    Bytes.drop_take_congr (V6Header.drop_readdress hmin source destination)
  rw [changeSegment_eq_patch protocol e h (by omega), hsegment, changeSegment_eq_patch protocol e h hs]
  split
  · exact (V6Header.readdress_patch (Nat.le_refl _) (length_changed protocol e h hs) source destination).symm
  · rfl

/-- Under other endpoints a datagram has its header for the same protocol, with the lengths that it had. -/
theorem HasV4.withEndpoints {header : V4Header} (has : d.HasV4 protocol header) (family : e.OfFamily true) :
    ∃ header', (withEndpoints d protocol e).HasV4 protocol header' ∧ header'.headerLength = header.headerLength ∧
      header'.totalLength = header.totalLength := by
  obtain ⟨source, destination, -, -, he⟩ := has.withEndpoints_eq family
  obtain ⟨-, hstart, hstop⟩ := v4Segment_bounds has.read
  have hchanged := length_changeSegment protocol e hstart hstop
  obtain ⟨header', hr, hwords, htotal, hprotocol, -, -, -⟩ :=
    V4Header.read_readdress has.read hchanged (take_changeSegment (Nat.le_trans hstart hstop)) source destination
  exact ⟨header', ⟨by rw [he]; exact hr, by rw [hprotocol]; exact has.protocol⟩, hwords, htotal⟩

theorem HasV6.withEndpoints {header : V6Header} (has : d.HasV6 protocol header) (family : e.OfFamily false) :
    ∃ header', (withEndpoints d protocol e).HasV6 protocol header' ∧ header'.payloadLength = header.payloadLength := by
  obtain ⟨source, destination, -, -, he⟩ := has.withEndpoints_eq family
  obtain ⟨hmin, hstart, hstop⟩ := v6Segment_bounds has.read
  have hchanged := length_changeSegment protocol e hstart hstop
  obtain ⟨header', hr, hpayload, hprotocol, -, -, -⟩ :=
    V6Header.read_readdress has.read hchanged (take_changeSegment hmin) source destination
  exact ⟨header', ⟨by rw [he]; exact hr, by rw [hprotocol]; exact has.protocol⟩, hpayload⟩

theorem withEndpoints_withEndpoints_v4 {header : V4Header} (has : d.HasV4 protocol header) (ha : a.OfFamily true)
    (hb : b.OfFamily true) :
    Datagram.withEndpoints (Datagram.withEndpoints d protocol a) protocol b = Datagram.withEndpoints d protocol b := by
  obtain ⟨hmin, hstart, hstop⟩ := v4Segment_bounds has.read
  have hchanged := length_changeSegment protocol a hstart hstop
  have hoverwritten := length_changeSegment protocol b hstart hstop
  have hlength := length_withEndpoints d protocol a
  obtain ⟨s, t, -, -, hea⟩ := has.withEndpoints_eq ha
  obtain ⟨source, destination, hs, hd, heb⟩ := has.withEndpoints_eq hb
  obtain ⟨header', has', hwords, htotal⟩ := has.withEndpoints ha
  have hend : v4SegmentEnd header' (Datagram.withEndpoints d protocol a).length = v4SegmentEnd header d.length := by
    rw [v4SegmentEnd, v4SegmentEnd, hlength, hwords, htotal]
  have hfamily : a.source.isV4 = b.source.isV4 := ha.1.trans hb.1.symm
  rw [withEndpoints_v4 has'.read has'.protocol hs hd, hend, hwords, hea,
    changeSegment_readdress_v4 hmin hstart (by omega), changeSegment_changeSegment hfamily hstart hstop,
    V4Header.readdress_readdress (by omega), heb]

theorem withEndpoints_withEndpoints_v6 {header : V6Header} (has : d.HasV6 protocol header) (ha : a.OfFamily false)
    (hb : b.OfFamily false) :
    Datagram.withEndpoints (Datagram.withEndpoints d protocol a) protocol b = Datagram.withEndpoints d protocol b := by
  obtain ⟨hmin, hstart, hstop⟩ := v6Segment_bounds has.read
  have hchanged := length_changeSegment protocol a hstart hstop
  have hoverwritten := length_changeSegment protocol b hstart hstop
  have hlength := length_withEndpoints d protocol a
  obtain ⟨s, t, -, -, hea⟩ := has.withEndpoints_eq ha
  obtain ⟨source, destination, hs, hd, heb⟩ := has.withEndpoints_eq hb
  obtain ⟨header', has', hpayload⟩ := has.withEndpoints ha
  have hend : v6SegmentEnd header' (Datagram.withEndpoints d protocol a).length = v6SegmentEnd header d.length := by
    rw [v6SegmentEnd, v6SegmentEnd, hlength, hpayload]
  have hfamily : a.source.isV4 = b.source.isV4 := ha.1.trans hb.1.symm
  rw [withEndpoints_v6 has'.read has'.protocol hs hd, hend, hea, changeSegment_readdress_v6 hstart (by omega),
    changeSegment_changeSegment hfamily hstart hstop, V6Header.readdress_readdress (by omega), heb]

/-- That endpoints are of the family of the header of a datagram, if it has one. -/
structure SameFamily (d : Datagram) (e : Endpoints) : Prop where
  v4 : ∀ header, V4Header.read d = .ok header → e.OfFamily true
  v6 : ∀ header, V6Header.read d = .ok header → e.OfFamily false

/-- Whatever endpoints a datagram was changed to, under others of its own family it is what it would have been. -/
theorem withEndpoints_withEndpoints (hb : d.SameFamily b) (protocol : Protocol) (a : Endpoints) :
    Datagram.withEndpoints (Datagram.withEndpoints d protocol a) protocol b = Datagram.withEndpoints d protocol b := by
  by_cases hfits : d.Fits protocol a
  · obtain ⟨ha, header, has⟩ | ⟨ha, header, has⟩ := hfits
    · exact withEndpoints_withEndpoints_v4 has ha (hb.v4 header has.read)
    · exact withEndpoints_withEndpoints_v6 has ha (hb.v6 header has.read)
  · rw [withEndpoints_of_not_fits hfits]

theorem Fits.sameFamily (h : d.Fits protocol e) : d.SameFamily e := by
  obtain ⟨family, header, has⟩ | ⟨family, header, has⟩ := h
  · exact ⟨fun _ _ => family, fun _ hr => absurd hr (V4Header.not_read_v6 has.read)⟩
  · exact ⟨fun _ hr => absurd has.read (V4Header.not_read_v6 hr), fun _ _ => family⟩

theorem withEndpoints_idem (d : Datagram) (protocol : Protocol) (e : Endpoints) :
    Datagram.withEndpoints (Datagram.withEndpoints d protocol e) protocol e = Datagram.withEndpoints d protocol e := by
  by_cases hfits : d.Fits protocol e
  · exact withEndpoints_withEndpoints hfits.sameFamily protocol e
  · rw [withEndpoints_of_not_fits hfits, withEndpoints_of_not_fits hfits]

end Datagram

/-! ## The packet -/

namespace Packet

variable {p : Packet} {b : Endpoints}

theorem withEndpoints_withEndpoints (hb : p.data.SameFamily b) (a : Endpoints) :
    (p.withEndpoints a).withEndpoints b = p.withEndpoints b := by
  have hdata := Datagram.withEndpoints_withEndpoints hb p.metadata.protocol a
  exact congrArg (fun data => { p with metadata := p.metadata.withEndpoints b, data }) hdata

theorem withEndpoints_idem (p : Packet) (e : Endpoints) : (p.withEndpoints e).withEndpoints e = p.withEndpoints e := by
  have hdata := Datagram.withEndpoints_idem p.data p.metadata.protocol e
  exact congrArg (fun data => { p with metadata := p.metadata.withEndpoints e, data }) hdata

/-- Between its own endpoints a packet changes at most in its datagram. -/
theorem withEndpoints_eq_self_iff (hb : p.metadata.endpoints? = some b) :
    p.withEndpoints b = p ↔ (p.withEndpoints b).data = p.data := by
  refine ⟨congrArg Packet.data, fun hdata => ?_⟩
  have hmetadata : p.metadata.withEndpoints b = p.metadata := by
    obtain ⟨hs, hd, hsp, hdp⟩ := Metadata.endpoints?_eq_some.1 hb
    rw [Metadata.withEndpoints, ← hs, ← hd, ← hsp, ← hdp]
  calc p.withEndpoints b
      = { p with metadata := p.metadata.withEndpoints b, data := (p.withEndpoints b).data } := rfl
    _ = p := by rw [hmetadata, hdata]

end Packet

end Router
