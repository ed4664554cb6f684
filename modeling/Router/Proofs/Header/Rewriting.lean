import Router.Proofs.Header.Checksum
import Router.Proofs.Header.Reading

/-!
# A datagram under other endpoints

Of a segment only the ports change and one checksum behind them (`Segment.withEndpoints_cases`), of a header only the
addresses and the checksum in front of them (`V4Header.readdress_eq`). The ports that are read stand behind the header,
the ports that are written in the segment as the header declares it, which may be too short for them
(`Datagram.carriesPorts`). Main statement: what is read afterwards are the new addresses, and the new ports where the
segment carries ports (`Metadata.read_withEndpoints`).
-/

namespace Router

/-! ## The segment -/

namespace Segment

/-- The pair of ports as it stands in front of a segment. -/
def portOctets (e : Endpoints) : List UInt8 :=
  Bytes.ofNat 2 e.sourcePort.toNat ++ Bytes.ofNat 2 e.destinationPort.toNat

theorem length_portOctets (e : Endpoints) : (portOctets e).length = 4 := by
  rw [portOctets, List.length_append, Bytes.length_ofNat, Bytes.length_ofNat]

variable {segment : List UInt8} {protocol : Protocol} {e : Endpoints} {offset : Nat}

/-- The octets that were cleared are those that are written. -/
theorem stamp_eq (h : offset + 2 ≤ segment.length) (number : UInt8) (adjust : UInt16 → UInt16) :
    stamp segment offset number e adjust =
      Bytes.patch segment offset
        (Checksum.octets (adjust (checksum e.source e.destination number (Bytes.patch segment offset [0, 0])))) :=
  Bytes.patch_patch h (Checksum.length_octets _)

theorem withEndpoints_of_short (h : segment.length < 4) : withEndpoints segment protocol e = segment :=
  if_pos h

theorem length_renumbered (h : 4 ≤ segment.length) (e : Endpoints) :
    (Bytes.patch segment 0 (portOctets e)).length = segment.length := by
  refine Bytes.length_patch _ _ _ ?_
  rw [length_portOctets]
  omega

/-- The ports are written, and behind them a checksum where there is room for it. -/
theorem withEndpoints_cases (protocol : Protocol) (e : Endpoints) (h : 4 ≤ segment.length) :
    withEndpoints segment protocol e = Bytes.patch segment 0 (portOctets e) ∨
    ∃ offset word, 4 ≤ offset ∧ offset + 2 ≤ segment.length ∧
      withEndpoints segment protocol e =
        Bytes.patch (Bytes.patch segment 0 (portOctets e)) offset (Checksum.octets word) := by
  have hl := length_renumbered h e
  unfold withEndpoints portsLength
  rw [if_neg (by omega)]
  dsimp only
  rw [show Bytes.ofNat 2 e.sourcePort.toNat ++ Bytes.ofNat 2 e.destinationPort.toNat = portOctets e from rfl]
  generalize Bytes.patch segment 0 (portOctets e) = renumbered at hl ⊢
  cases protocol with
  | tcp =>
    by_cases hshort : renumbered.length < tcpLength
    · exact .inl (if_pos hshort)
    · rw [if_neg hshort]
      unfold tcpLength at hshort
      exact .inr ⟨16, _, by omega, by omega, stamp_eq (by omega) _ _⟩
  | udp =>
    by_cases hshort : renumbered.length < udpLength
    · exact .inl (if_pos hshort)
    · rw [if_neg hshort]
      unfold udpLength at hshort
      by_cases hnone : (renumbered.drop 6).take 2 = [0, 0] ∧ e.source.isV4
      · exact .inl (if_pos hnone)
      · rw [if_neg hnone]
        exact .inr ⟨6, _, by omega, by omega, stamp_eq (by omega) _ _⟩
  | icmp => exact .inl rfl
  | icmpv6 => exact .inl rfl
  | other => exact .inl rfl

theorem length_withEndpoints (segment : List UInt8) (protocol : Protocol) (e : Endpoints) :
    (withEndpoints segment protocol e).length = segment.length := by
  by_cases h : segment.length < 4
  · rw [withEndpoints_of_short h]
  · have hl := length_renumbered (Nat.le_of_not_lt h) e
    obtain he | ⟨offset, word, -, hroom, he⟩ := withEndpoints_cases protocol e (Nat.le_of_not_lt h)
    · rw [he, hl]
    · rw [he, Bytes.length_patch _ _ _ (by rw [Checksum.length_octets]; omega), hl]

/-- The ports stand in front afterwards, whatever was stored behind them. -/
theorem take_withEndpoints (h : 4 ≤ segment.length) : (withEndpoints segment protocol e).take 4 = portOctets e := by
  have hl := length_renumbered h e
  have hports : (Bytes.patch segment 0 (portOctets e)).take 4 = portOctets e := by
    rw [← length_portOctets e]
    exact Bytes.take_drop_patch (Nat.zero_le _)
  obtain he | ⟨offset, word, hbehind, hroom, he⟩ := withEndpoints_cases protocol e h
  · rw [he, hports]
  · rw [he, Bytes.take_patch (by omega) hbehind, hports]

end Segment

/-! ## The addresses -/

theorem Address.isV4_eq_true {a : Address} : a.isV4 = true ↔ ∃ bits, a = .v4 bits := by
  cases a <;> simp [isV4]

theorem Address.isV4_eq_false {a : Address} : a.isV4 = false ↔ ∃ bits, a = .v6 bits := by
  cases a <;> simp [isV4]

theorem Address.length_octets_v4 (a : V4Address) : (octets (.v4 a)).length = 4 :=
  Bytes.length_ofNat 4 a.toNat

theorem Address.length_octets_v6 (a : V6Address) : (octets (.v6 a)).length = 16 :=
  Bytes.length_ofNat 16 a.toNat

namespace V4Header

variable {c d : Datagram} {header : V4Header}

/-- The datagram with both addresses replaced and the checksum as it was. -/
def replaceAddresses (d : Datagram) (source destination : V4Address) : Datagram :=
  Bytes.patch d 12 (Address.octets (.v4 source) ++ Address.octets (.v4 destination))

theorem length_replaceAddresses (h : 20 ≤ d.length) (source destination : V4Address) :
    (replaceAddresses d source destination).length = d.length := by
  refine Bytes.length_patch _ _ _ ?_
  rw [List.length_append, Address.length_octets_v4, Address.length_octets_v4]
  omega

/-- The addresses are written, and a checksum in front of them. -/
theorem readdress_eq (h : 20 ≤ d.length) (headerLength : Nat) (source destination : V4Address) :
    ∃ word, readdress d headerLength source destination =
      Bytes.patch (replaceAddresses d source destination) 10 (Checksum.octets word) := by
  have hl := length_replaceAddresses h source destination
  refine ⟨_, Bytes.patch_patch ?_ (Checksum.length_octets _)⟩
  rw [← replaceAddresses, hl, List.length_cons, List.length_singleton]
  omega

theorem length_readdress (h : 20 ≤ d.length) (headerLength : Nat) (source destination : V4Address) :
    (readdress d headerLength source destination).length = d.length := by
  have hl := length_replaceAddresses h source destination
  obtain ⟨word, he⟩ := readdress_eq h headerLength source destination
  rw [he, Bytes.length_patch _ _ _ (by rw [Checksum.length_octets]; omega), hl]

/-- A datagram that has the header of another still has it under other addresses, in front of its own payload. -/
theorem read_readdress (h : read d = .ok header) (hl : c.length = d.length)
    (hc : c.take header.headerLength = d.take header.headerLength) (source destination : V4Address) :
    ∃ header', read (readdress c header.headerLength source destination) = .ok header' ∧
      header'.headerLength = header.headerLength ∧ header'.totalLength = header.totalLength ∧
      header'.protocol = header.protocol ∧ header'.source = source ∧ header'.destination = destination ∧
      header'.payload = c.drop header.headerLength := by
  obtain ⟨hmin, hhave⟩ := bounds_of_read h
  have hlen : 20 ≤ c.length := by omega
  obtain ⟨word, he⟩ := readdress_eq hlen header.headerLength source destination
  have hreplaced := length_replaceAddresses hlen source destination
  have hlength := length_readdress hlen header.headerLength source destination
  have hfront : (readdress c header.headerLength source destination).take 10 = d.take 10 := by
    have := congrArg (List.take 10) hc
    rw [List.take_take, List.take_take, Nat.min_eq_left (by omega)] at this
    rw [he, Bytes.take_patch (by omega) (Nat.le_refl _), replaceAddresses, Bytes.take_patch (by omega) (by omega), this]
  have hbehind {n : Nat} (hn : 12 ≤ n) :
      (readdress c header.headerLength source destination).drop n = (replaceAddresses c source destination).drop n := by
    rw [he, Bytes.drop_patch (by omega) (by rw [Checksum.length_octets]; omega)]
  obtain ⟨header', hr, hwords, htotal, hprotocol⟩ := read_of_front h (hlength.trans hl) hfront
  refine ⟨header', hr, hwords, htotal, hprotocol, source_of_read hr ?_, destination_of_read hr ?_, ?_⟩
  · rw [hbehind (Nat.le_refl _), ← Address.length_octets_v4 source]
    exact Bytes.take_drop_patch_left (by omega)
  · rw [hbehind (by omega), ← Address.length_octets_v4 destination]
    exact Bytes.take_drop_patch_right (by omega) (congrArg (12 + ·) (Address.length_octets_v4 source))
  · rw [payload_of_read hr, hwords, hbehind (by omega), replaceAddresses, Bytes.drop_patch (by omega)]
    rw [List.length_append, Address.length_octets_v4, Address.length_octets_v4]
    exact hmin

end V4Header

namespace V6Header

variable {c d : Datagram} {header : V6Header}

theorem length_readdress (h : 40 ≤ d.length) (source destination : V6Address) :
    (readdress d source destination).length = d.length := by
  refine Bytes.length_patch _ _ _ ?_
  rw [List.length_append, Address.length_octets_v6, Address.length_octets_v6]
  omega

/-- A datagram that has the header of another still has it under other addresses, in front of its own payload. -/
theorem read_readdress (h : read d = .ok header) (hl : c.length = d.length)
    (hc : c.take headerLength = d.take headerLength) (source destination : V6Address) :
    ∃ header', read (readdress c source destination) = .ok header' ∧
      header'.payloadLength = header.payloadLength ∧ header'.nextHeader = header.nextHeader ∧
      header'.source = source ∧ header'.destination = destination ∧ header'.payload = c.drop headerLength := by
  have hmin := length_of_read h
  have hlen : 40 ≤ c.length := by omega
  have hlength := length_readdress hlen source destination
  have hfront : (readdress c source destination).take 8 = d.take 8 := by
    have := congrArg (List.take 8) hc
    rw [List.take_take, List.take_take, Nat.min_eq_left (by decide)] at this
    rw [readdress, Bytes.take_patch (by omega) (Nat.le_refl _), this]
  obtain ⟨header', hr, hpayload, hnext⟩ := read_of_front h (hlength.trans hl) hfront
  refine ⟨header', hr, hpayload, hnext, source_of_read hr ?_, destination_of_read hr ?_, ?_⟩
  · rw [readdress, ← Address.length_octets_v6 source]
    exact Bytes.take_drop_patch_left (by omega)
  · rw [readdress, ← Address.length_octets_v6 destination]
    exact Bytes.take_drop_patch_right (by omega) (congrArg (8 + ·) (Address.length_octets_v6 source))
  · rw [payload_of_read hr, readdress, Bytes.drop_patch (by omega)]
    rw [List.length_append, Address.length_octets_v6, Address.length_octets_v6]
    exact Nat.le_refl _

end V6Header

/-! ## The datagram -/

namespace Datagram

variable {d : Datagram} {start stop : Nat} {protocol : Protocol} {e : Endpoints}

theorem length_changeSegment (protocol : Protocol) (e : Endpoints) (h : start ≤ stop) (hs : stop ≤ d.length) :
    (changeSegment d start stop protocol e).length = d.length := by
  unfold changeSegment
  split
  · exact Bytes.length_modify _ _ _ _ (fun segment => Segment.length_withEndpoints segment protocol e) h hs
  · rfl

theorem take_changeSegment (h : start ≤ d.length) :
    (changeSegment d start stop protocol e).take start = d.take start := by
  unfold changeSegment
  split
  · exact Bytes.take_modify h (Nat.le_refl _)
  · rfl

/-- The ports behind the header are the new ones if the segment, from `start` to `stop`, has room for them. -/
theorem portsOf_changeSegment (h : start ≤ stop) (hs : stop ≤ d.length) :
    Segment.portsOf protocol ((changeSegment d start stop protocol e).drop start) =
      if protocol.hasPorts ∧ 4 ≤ stop - start then .ok (e.sourcePort, e.destinationPort)
      else Segment.portsOf protocol (d.drop start) := by
  have hsegment : ((d.take stop).drop start).length = stop - start := by
    rw [List.length_drop, Bytes.length_take_of_le hs]
  by_cases hp : protocol.hasPorts = true
  · rw [changeSegment, if_pos hp, Bytes.drop_modify (by omega)]
    by_cases hroom : 4 ≤ stop - start
    · rw [if_pos ⟨hp, hroom⟩, Segment.portsOf, if_pos hp]
      refine Segment.ports_of_take ?_
      rw [List.take_append_of_le_length (by rw [Segment.length_withEndpoints]; omega)]
      exact Segment.take_withEndpoints (by omega)
    · have hrest : (d.take stop).drop start ++ d.drop stop = d.drop start := by
        rw [← List.drop_append_of_le_length (by rw [Bytes.length_take_of_le hs]; exact h), List.take_append_drop]
      rw [if_neg (fun hc => hroom hc.2), Segment.withEndpoints_of_short (by omega), hrest]
  · rw [changeSegment, if_neg hp, if_neg (fun hc => hp hc.1)]

theorem v4SegmentEnd_bounds {header : V4Header} {available : Nat} (h : header.headerLength ≤ available) :
    header.headerLength ≤ v4SegmentEnd header available ∧ v4SegmentEnd header available ≤ available := by
  unfold v4SegmentEnd
  omega

theorem v6SegmentEnd_bounds (header : V6Header) {available : Nat} (h : 40 ≤ available) :
    V6Header.headerLength ≤ v6SegmentEnd header available ∧ v6SegmentEnd header available ≤ available := by
  unfold v6SegmentEnd V6Header.headerLength
  split <;> omega

theorem withEndpoints_v4 {header : V4Header} (h : V4Header.read d = .ok header)
    (hp : Protocol.ofNumber header.protocol = protocol) {source destination : V4Address}
    (hs : e.source = .v4 source) (hd : e.destination = .v4 destination) :
    withEndpoints d protocol e =
      V4Header.readdress (changeSegment d header.headerLength (v4SegmentEnd header d.length) protocol e)
        header.headerLength source destination := by
  simp only [withEndpoints, hs, hd, h, hp, if_true]

theorem withEndpoints_v6 {header : V6Header} (h : V6Header.read d = .ok header)
    (hp : Protocol.ofNumber header.nextHeader = protocol) {source destination : V6Address}
    (hs : e.source = .v6 source) (hd : e.destination = .v6 destination) :
    withEndpoints d protocol e =
      V6Header.readdress (changeSegment d V6Header.headerLength (v6SegmentEnd header d.length) protocol e)
        source destination := by
  simp only [withEndpoints, hs, hd, h, hp, if_true]

/-- The octets of the segment as the header declares it; none without a header. -/
def segmentLength (d : Datagram) : Nat :=
  match V4Header.read d, V6Header.read d with
  | .ok header, _ => v4SegmentEnd header d.length - header.headerLength
  | .error _, .ok header => v6SegmentEnd header d.length - V6Header.headerLength
  | .error _, .error _ => 0

/-- Whether the segment holds a pair of ports that can be written. -/
def carriesPorts (d : Datagram) (protocol : Protocol) : Bool :=
  protocol.hasPorts && decide (4 ≤ segmentLength d)

/-- The endpoints that a datagram shows when it is sent between `e`: the ports are those that it was read with unless
it carries ports. -/
def shown (d : Datagram) (m : Metadata) (e : Endpoints) : Endpoints :=
  if d.carriesPorts m.protocol then e
  else { e with sourcePort := m.sourcePort, destinationPort := m.destinationPort }

variable {m : Metadata}

theorem shown_source (d : Datagram) (m : Metadata) (e : Endpoints) : (d.shown m e).source = e.source := by
  unfold shown
  split <;> rfl

theorem shown_destination (d : Datagram) (m : Metadata) (e : Endpoints) :
    (d.shown m e).destination = e.destination := by
  unfold shown
  split <;> rfl

theorem segmentLength_v4 {header : V4Header} (h : V4Header.read d = .ok header) :
    segmentLength d = v4SegmentEnd header d.length - header.headerLength := by
  simp only [segmentLength, h]

theorem segmentLength_v6 {header : V6Header} (h : V6Header.read d = .ok header) :
    segmentLength d = v6SegmentEnd header d.length - V6Header.headerLength := by
  cases h4 : V4Header.read d with
  | ok other =>
    obtain ⟨-, hsix, -⟩ := V6Header.read_eq_ok_iff.1 h
    obtain ⟨-, hfour, -⟩ := V4Header.read_eq_ok_iff.1 h4
    omega
  | error _ => simp only [segmentLength, h, h4]

theorem portsOf_shown (h : start ≤ stop) (hs : stop ≤ d.length) (hlength : d.segmentLength = stop - start)
    (hm : Segment.portsOf m.protocol (d.drop start) = .ok (m.sourcePort, m.destinationPort)) :
    Segment.portsOf m.protocol ((changeSegment d start stop m.protocol e).drop start) =
      .ok ((d.shown m e).sourcePort, (d.shown m e).destinationPort) := by
  rw [portsOf_changeSegment h hs, hm, ← hlength]
  by_cases hc : d.carriesPorts m.protocol = true
  · rw [shown, if_pos hc, if_pos (by simpa [carriesPorts] using hc)]
  · rw [shown, if_neg hc, if_neg (by simpa [carriesPorts] using hc)]

end Datagram

/-! ## The metadata -/

namespace Metadata

variable {d : Datagram} {m : Metadata} {e : Endpoints}

theorem endpoints?_eq_some {k : Endpoints} :
    m.endpoints? = some k ↔
      m.source = some k.source ∧ m.destination = some k.destination ∧ m.sourcePort = k.sourcePort ∧
        m.destinationPort = k.destinationPort := by
  obtain ⟨source, destination, protocol, sourcePort, destinationPort, length⟩ := m
  obtain ⟨source', sourcePort', destination', destinationPort'⟩ := k
  cases source with
  | none => simp [endpoints?]
  | some source =>
    cases destination with
    | none => simp [endpoints?]
    | some destination => simp [endpoints?, and_left_comm]

/-- A header with the new addresses, in front of a segment with the ports that are shown. -/
theorem ofHeader_shown {number : Nat} {segment : List UInt8} (hp : m.protocol = .ofNumber number)
    (hl : m.length = d.length)
    (hs : Segment.portsOf m.protocol segment = .ok ((d.shown m e).sourcePort, (d.shown m e).destinationPort)) :
    ofHeader e.source e.destination number segment d.length = .ok (m.withEndpoints (d.shown m e)) := by
  refine ofHeader_eq_ok_iff.2 ⟨?_, ?_, ?_, hp, hl⟩
  · rw [← hp]
    exact hs
  · rw [← Datagram.shown_source d m e]
    rfl
  · rw [← Datagram.shown_destination d m e]
    rfl

/-- A datagram that can be read is between two addresses of one family. -/
theorem family_of_read {k : Endpoints} (h : read d = .ok m) (hk : m.endpoints? = some k) :
    k.destination.isV4 = k.source.isV4 := by
  obtain ⟨hsource, hdestination, -, -⟩ := endpoints?_eq_some.1 hk
  obtain ⟨header, -, hm⟩ | ⟨header, -, hm⟩ := read_eq_ok_iff.1 h
  all_goals
    obtain ⟨-, hs, hd, -, -⟩ := ofHeader_eq_ok_iff.1 hm
    rw [Option.some.inj (hsource.symm.trans hs), Option.some.inj (hdestination.symm.trans hd)]
    rfl

/-- Between the endpoints it was read with, a datagram shows all of them. -/
theorem shown_of_endpoints? {k : Endpoints} (hk : m.endpoints? = some k) : d.shown m k = k := by
  obtain ⟨-, -, hsource, hdestination⟩ := endpoints?_eq_some.1 hk
  unfold Datagram.shown
  split
  · rfl
  · rw [hsource, hdestination]

theorem read_withEndpoints_v4 {header : V4Header} (hr : V4Header.read d = .ok header)
    (hm : ofHeader (.v4 header.source) (.v4 header.destination) header.protocol header.payload d.length = .ok m)
    {source destination : V4Address} (hs : e.source = .v4 source) (hd : e.destination = .v4 destination) :
    read (Datagram.withEndpoints d m.protocol e) = .ok (m.withEndpoints (d.shown m e)) := by
  obtain ⟨hports, -, -, hprotocol, hlength⟩ := ofHeader_eq_ok_iff.1 hm
  obtain ⟨hmin, hhave⟩ := V4Header.bounds_of_read hr
  obtain ⟨hstart, hstop⟩ := Datagram.v4SegmentEnd_bounds hhave
  have hchanged := Datagram.length_changeSegment m.protocol e hstart hstop
  obtain ⟨header', hr', -, -, hprotocol', hs', hd', hpayload⟩ :=
    V4Header.read_readdress hr hchanged (Datagram.take_changeSegment hhave) source destination
  rw [V4Header.payload_of_read hr, ← hprotocol] at hports
  rw [Datagram.withEndpoints_v4 hr hprotocol.symm hs hd]
  refine read_eq_ok_iff.2 (.inl ⟨header', hr', ?_⟩)
  rw [hs', hd', ← hs, ← hd, hprotocol', hpayload, V4Header.length_readdress (by omega), hchanged]
  exact ofHeader_shown hprotocol hlength (Datagram.portsOf_shown hstart hstop (Datagram.segmentLength_v4 hr) hports)

theorem read_withEndpoints_v6 {header : V6Header} (hr : V6Header.read d = .ok header)
    (hm : ofHeader (.v6 header.source) (.v6 header.destination) header.nextHeader header.payload d.length = .ok m)
    {source destination : V6Address} (hs : e.source = .v6 source) (hd : e.destination = .v6 destination) :
    read (Datagram.withEndpoints d m.protocol e) = .ok (m.withEndpoints (d.shown m e)) := by
  obtain ⟨hports, -, -, hprotocol, hlength⟩ := ofHeader_eq_ok_iff.1 hm
  have hmin := V6Header.length_of_read hr
  obtain ⟨hstart, hstop⟩ := Datagram.v6SegmentEnd_bounds header hmin
  have hchanged := Datagram.length_changeSegment m.protocol e hstart hstop
  obtain ⟨header', hr', -, hprotocol', hs', hd', hpayload⟩ :=
    V6Header.read_readdress hr hchanged (Datagram.take_changeSegment hmin) source destination
  rw [V6Header.payload_of_read hr, ← hprotocol] at hports
  rw [Datagram.withEndpoints_v6 hr hprotocol.symm hs hd]
  refine read_eq_ok_iff.2 (.inr ⟨header', hr', ?_⟩)
  rw [hs', hd', ← hs, ← hd, hprotocol', hpayload, V6Header.length_readdress (by omega), hchanged]
  exact ofHeader_shown hprotocol hlength (Datagram.portsOf_shown hstart hstop (Datagram.segmentLength_v6 hr) hports)

/-- Under other endpoints of its own family, a datagram is read as it was, but between what it shows of them. -/
theorem read_withEndpoints {k : Endpoints} (h : read d = .ok m) (hk : m.endpoints? = some k)
    (hs : e.source.isV4 = k.source.isV4) (hd : e.destination.isV4 = k.source.isV4) :
    read (Datagram.withEndpoints d m.protocol e) = .ok (m.withEndpoints (d.shown m e)) := by
  have hsource := (endpoints?_eq_some.1 hk).1
  obtain ⟨header, hr, hm⟩ | ⟨header, hr, hm⟩ := read_eq_ok_iff.1 h
  · have hfamily : k.source = .v4 header.source :=
      Option.some.inj (hsource.symm.trans (ofHeader_eq_ok_iff.1 hm).2.1)
    rw [hfamily] at hs hd
    obtain ⟨source, hs⟩ := Address.isV4_eq_true.1 hs
    obtain ⟨destination, hd⟩ := Address.isV4_eq_true.1 hd
    exact read_withEndpoints_v4 hr hm hs hd
  · have hfamily : k.source = .v6 header.source :=
      Option.some.inj (hsource.symm.trans (ofHeader_eq_ok_iff.1 hm).2.1)
    rw [hfamily] at hs hd
    obtain ⟨source, hs⟩ := Address.isV4_eq_false.1 hs
    obtain ⟨destination, hd⟩ := Address.isV4_eq_false.1 hd
    exact read_withEndpoints_v6 hr hm hs hd

end Metadata

end Router
