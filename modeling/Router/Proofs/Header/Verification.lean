import Router.Proofs.Header.Rewriting

/-!
# Checksums under other endpoints

- a segment that is long enough for its checksum verifies behind the pseudo-header of the new addresses, and only a
  UDP segment without checksum over IPv4 stays without (`Segment.verified_withEndpoints`);
- the header of an IPv4 datagram verifies whatever options it has (`V4Header.checksum_readdress`);
- the segment that a datagram declares is changed as a whole, and nothing of it by the new addresses
  (`Datagram.segment_changeSegment`, `V4Header.segment_readdress`, `V6Header.segment_readdress`).

Main statement: both hold of every packet that has a header for its protocol (`Packet.checksums_withEndpoints`).
-/

namespace Router

/-! ## The pseudo-header -/

theorem Checksum.toNat_add_le (a b : UInt32) : (a + b).toNat ≤ a.toNat + b.toNat := by
  rw [UInt32.toNat_add]
  exact Nat.mod_le _ _

/-- Without anything in front, the accumulator holds no more than the sum. -/
theorem Checksum.toNat_addWords_zero_le (bytes : List UInt8) :
    (addWords bytes 0).toNat ≤ 65535 * ((bytes.length + 1) / 2) := by
  have h := toNat_addWords bytes 0
  have hsum := sum_le bytes
  rw [UInt32.toNat_zero, Nat.zero_add] at h
  have := Nat.mod_le (sum bytes) 4294967296
  omega

theorem Address.length_octets_le (a : Address) : a.octets.length ≤ 16 := by
  cases a with
  | v4 bits => simp [octets]
  | v6 bits => simp [octets]

theorem Address.length_mappedOctets (a : Address) : a.mappedOctets.length = 16 := by
  cases a with
  | v4 bits => rw [mappedOctets, List.length_append, Bytes.length_ofNat, Bytes.length_ofNat]
  | v6 bits => rw [mappedOctets, Bytes.length_ofNat]

namespace Segment

variable {segment : List UInt8} {protocol : Protocol} {e : Endpoints} {offset : Nat}

/-- The pseudo-header leaves room for every segment that a header can declare. -/
theorem toNat_pseudoSum_lt (source destination : Address) (number : UInt8) {length : Nat} (h : length < 65536) :
    (pseudoSum source destination number length).toNat < 2097152 := by
  have hnumber : number.toUInt32.toNat < 256 := by
    rw [UInt8.toNat_toUInt32]
    exact number.toNat_lt
  have hlength : (UInt32.ofNat length).toNat = length := by
    rw [UInt32.toNat_ofNat', Nat.mod_eq_of_lt (by omega)]
  unfold pseudoSum
  dsimp only
  split
  · have hs := source.length_octets_le
    have hd := destination.length_octets_le
    have haddresses := Checksum.toNat_addWords_zero_le (source.octets ++ destination.octets)
    rw [List.length_append] at haddresses
    generalize Checksum.addWords (source.octets ++ destination.octets) 0 = sum at haddresses ⊢
    have h1 := Checksum.toNat_add_le sum number.toUInt32
    have h2 := Checksum.toNat_add_le (sum + number.toUInt32) (UInt32.ofNat length)
    omega
  · have hs := source.length_mappedOctets
    have hd := destination.length_mappedOctets
    have haddresses := Checksum.toNat_addWords_zero_le (source.mappedOctets ++ destination.mappedOctets)
    rw [List.length_append] at haddresses
    have hhigh : (UInt32.ofNat length >>> (16 : UInt32)).toNat ≤ length := by
      rw [UInt32.toNat_shiftRight, hlength]
      exact Nat.shiftRight_le _ _
    have hlow : (UInt32.ofNat length &&& (0xFFFF : UInt32)).toNat ≤ length := by
      rw [UInt32.toNat_and, hlength]
      exact Nat.and_le_left
    generalize Checksum.addWords (source.mappedOctets ++ destination.mappedOctets) 0 = sum at haddresses ⊢
    generalize UInt32.ofNat length >>> (16 : UInt32) = high at hhigh ⊢
    generalize UInt32.ofNat length &&& (0xFFFF : UInt32) = low at hlow ⊢
    have h1 := Checksum.toNat_add_le sum high
    have h2 := Checksum.toNat_add_le (sum + high) low
    have h3 := Checksum.toNat_add_le (sum + high + low) number.toUInt32
    omega

/-! ## The segment -/

theorem stores_complement (total : UInt32) : Checksum.Stores (~~~ Checksum.fold total) total :=
  .inl rfl

theorem stores_nonZero (total : UInt32) : Checksum.Stores (nonZero (~~~ Checksum.fold total)) total := by
  unfold nonZero
  split
  · rename_i h
    exact .inr ⟨rfl, h⟩
  · exact .inl rfl

theorem nonZero_ne_zero (word : UInt16) : nonZero word ≠ 0 := by
  unfold nonZero
  split
  · decide
  · assumption

/-- A segment that was stamped verifies. -/
theorem checksum_stamp {adjust : UInt16 → UInt16} (heven : offset % 2 = 0) (h : offset + 2 ≤ segment.length)
    (hlength : segment.length < 65536) (number : UInt8) (e : Endpoints)
    (hadjust : ∀ total, Checksum.Stores (adjust (~~~ Checksum.fold total)) total) :
    checksum e.source e.destination number (stamp segment offset number e adjust) = 0 := by
  have hroom := toNat_pseudoSum_lt e.source e.destination number hlength
  have hcleared : (Bytes.patch segment offset [0, 0]).length = segment.length := Bytes.length_patch _ _ _ h
  have hwritten (word : UInt16) : (Bytes.patch segment offset (Checksum.octets word)).length = segment.length :=
    Bytes.length_patch _ _ _ (by rw [Checksum.length_octets]; exact h)
  rw [stamp_eq h, checksum, hwritten]
  refine Checksum.complement_of_written heven h ?_ (by omega)
  rw [checksum, hcleared]
  exact hadjust _

/-- The checksum that stands in a UDP segment. -/
def udpChecksum (segment : List UInt8) : Nat :=
  Bytes.number segment 6 2

theorem udpChecksum_eq_zero_iff (h : 8 ≤ segment.length) : udpChecksum segment = 0 ↔ (segment.drop 6).take 2 = [0, 0] := by
  have hlength : ((segment.drop 6).take 2).length = 2 := by
    rw [List.length_take, List.length_drop]
    omega
  unfold udpChecksum Bytes.number
  constructor
  · intro hzero
    have h := Bytes.ofNat_toNat ((segment.drop 6).take 2)
    rw [hlength, hzero] at h
    exact h.symm
  · intro hzero
    rw [hzero]
    rfl

/-- The ports do not reach the checksum of UDP. -/
theorem udpChecksum_renumbered (segment : List UInt8) (e : Endpoints) :
    udpChecksum (Bytes.patch segment 0 (portOctets e)) = udpChecksum segment := by
  unfold udpChecksum Bytes.number
  rw [Bytes.drop_patch (Nat.zero_le _) (by rw [length_portOctets]; decide)]

theorem udpChecksum_stamp (h : 8 ≤ segment.length) (number : UInt8) (e : Endpoints) :
    udpChecksum (stamp segment 6 number e nonZero) ≠ 0 := by
  rw [stamp_eq (by omega)]
  generalize checksum e.source e.destination number _ = word
  have hread : ((Bytes.patch segment 6 (Checksum.octets (nonZero word))).drop 6).take 2 =
      Checksum.octets (nonZero word) := by
    rw [← Checksum.length_octets (nonZero word)]
    exact Bytes.take_drop_patch (by omega)
  rw [udpChecksum, Bytes.number, hread, Checksum.toNat_octets]
  intro hzero
  exact nonZero_ne_zero word (UInt16.toNat_inj.1 hzero)

theorem withEndpoints_tcp (h : 20 ≤ segment.length) (e : Endpoints) :
    withEndpoints segment .tcp e = stamp (Bytes.patch segment 0 (portOctets e)) 16 tcpNumber e id := by
  have hl := length_renumbered (show 4 ≤ segment.length by omega) e
  unfold withEndpoints portsLength tcpLength
  rw [if_neg (by omega)]
  exact if_neg (by rw [← portOctets]; omega)

theorem withEndpoints_udp (h : 8 ≤ segment.length) (e : Endpoints) :
    withEndpoints segment .udp e =
      if udpChecksum segment = 0 ∧ e.source.isV4 then Bytes.patch segment 0 (portOctets e)
      else stamp (Bytes.patch segment 0 (portOctets e)) 6 udpNumber e nonZero := by
  have hl := length_renumbered (show 4 ≤ segment.length by omega) e
  have hlong : 8 ≤ (Bytes.patch segment 0 (portOctets e)).length := hl.symm ▸ h
  have hnone := udpChecksum_eq_zero_iff hlong
  rw [udpChecksum_renumbered] at hnone
  unfold withEndpoints portsLength udpLength
  rw [if_neg (by omega), ← portOctets]
  dsimp only
  rw [if_neg (by omega)]
  simp only [hnone]

/-- What one segment is of another whose endpoints were replaced: as long as before, and with a checksum that verifies
if there is room for one. A UDP segment without checksum over IPv4 stays without. -/
structure Verified (protocol : Protocol) (e : Endpoints) (before after : List UInt8) : Prop where
  length : after.length = before.length
  tcp : protocol = .tcp → 20 ≤ after.length → checksum e.source e.destination tcpNumber after = 0
  udp : protocol = .udp → 8 ≤ after.length → ¬ (udpChecksum before = 0 ∧ e.source.isV4) →
    checksum e.source e.destination udpNumber after = 0 ∧ udpChecksum after ≠ 0
  without : protocol = .udp → 8 ≤ after.length → udpChecksum before = 0 → e.source.isV4 → udpChecksum after = 0

theorem verified_withEndpoints (h : segment.length < 65536) (protocol : Protocol) (e : Endpoints) :
    Verified protocol e segment (withEndpoints segment protocol e) := by
  have hlength := length_withEndpoints segment protocol e
  refine ⟨hlength, ?_, ?_, ?_⟩
  · rintro rfl hroom
    rw [hlength] at hroom
    have hl := length_renumbered (show 4 ≤ segment.length by omega) e
    rw [withEndpoints_tcp hroom]
    exact checksum_stamp rfl (by omega) (by omega) tcpNumber e stores_complement
  · rintro rfl hroom hhas
    rw [hlength] at hroom
    have hl := length_renumbered (show 4 ≤ segment.length by omega) e
    rw [withEndpoints_udp hroom, if_neg hhas]
    exact ⟨checksum_stamp rfl (by omega) (by omega) udpNumber e stores_nonZero,
      udpChecksum_stamp (by omega) udpNumber e⟩
  · rintro rfl hroom hzero hfour
    rw [hlength] at hroom
    rw [withEndpoints_udp hroom, if_pos ⟨hzero, hfour⟩, udpChecksum_renumbered, hzero]

end Segment

/-! ## The segment of a datagram -/

namespace Datagram

variable {d : Datagram} {start stop : Nat}

/-- The segment is changed as a whole, if the protocol has ports. -/
theorem segment_changeSegment (protocol : Protocol) (e : Endpoints) (h : start ≤ stop) (hs : stop ≤ d.length) :
    ((changeSegment d start stop protocol e).take stop).drop start =
      if protocol.hasPorts then Segment.withEndpoints ((d.take stop).drop start) protocol e
      else (d.take stop).drop start := by
  have hsegment : ((d.take stop).drop start).length = stop - start := by
    rw [List.length_drop, Bytes.length_take_of_le hs]
  by_cases hp : protocol.hasPorts = true
  · rw [changeSegment, if_pos hp, if_pos hp, List.drop_take, Bytes.drop_modify (by omega), List.take_left']
    rw [Segment.length_withEndpoints, hsegment]
  · rw [changeSegment, if_neg hp, if_neg hp]

/-- A segment of a protocol without ports has no checksum to verify. -/
theorem verified_changeSegment (protocol : Protocol) (e : Endpoints) (h : start ≤ stop) (hs : stop ≤ d.length)
    (hlength : stop - start < 65536) :
    Segment.Verified protocol e ((d.take stop).drop start)
      (((changeSegment d start stop protocol e).take stop).drop start) := by
  rw [segment_changeSegment protocol e h hs]
  split
  · refine Segment.verified_withEndpoints ?_ protocol e
    rwa [List.length_drop, Bytes.length_take_of_le hs]
  · rename_i hp
    refine ⟨rfl, ?_, ?_, ?_⟩
    · rintro rfl
      exact absurd rfl hp
    · rintro rfl
      exact absurd rfl hp
    · rintro rfl
      exact absurd rfl hp

end Datagram

namespace V4Header

variable {c d : Datagram} {header : V4Header}

/-- The segment that a header declares: up to the total length, and none if that lies inside the header. -/
def segment (header : V4Header) (d : Datagram) : List UInt8 :=
  (d.take (Datagram.v4SegmentEnd header d.length)).drop header.headerLength

theorem headerLength_le (h : read d = .ok header) : header.headerLength ≤ 60 := by
  obtain ⟨-, -, -, -, rfl⟩ := read_eq_ok_iff.1 h
  dsimp only [fields]
  omega

theorem totalLength_lt (h : read d = .ok header) : header.totalLength < 65536 := by
  obtain ⟨hlen, -, -, -, rfl⟩ := read_eq_ok_iff.1 h
  exact Bytes.number_lt (by omega)

theorem checksumOk_iff (h : read d = .ok header) :
    header.checksumOk = true ↔ Checksum.of (d.take header.headerLength) = 0 := by
  obtain ⟨-, -, -, -, rfl⟩ := read_eq_ok_iff.1 h
  exact decide_eq_true_iff

/-- The header verifies, its options included. -/
theorem checksum_readdress {headerLength : Nat} (hmin : 20 ≤ headerLength) (hmax : headerLength ≤ 60)
    (h : headerLength ≤ d.length) (source destination : V4Address) :
    Checksum.of ((readdress d headerLength source destination).take headerLength) = 0 := by
  have hreplaced := length_replaceAddresses (show 20 ≤ d.length by omega) source destination
  have hheader : ((replaceAddresses d source destination).take headerLength).length = headerLength :=
    Bytes.length_take_of_le (by omega)
  have hcut {word : List UInt8} (hword : word.length = 2) :
      (Bytes.patch (replaceAddresses d source destination) 10 word).take headerLength =
        Bytes.patch ((replaceAddresses d source destination).take headerLength) 10 word :=
    Bytes.take_patch_behind (by omega) (by omega)
  rw [readdress, ← replaceAddresses, stamp, Bytes.patch_patch ?_ (Checksum.length_octets _),
    hcut (Checksum.length_octets _), hcut rfl, Checksum.of]
  · refine Checksum.complement_of_written rfl (by omega) (.inl rfl) ?_
    rw [hheader, UInt32.toNat_zero]
    omega
  · rw [hreplaced, List.length_cons, List.length_singleton]
    omega

theorem drop_readdress {n : Nat} (h : 20 ≤ d.length) (hn : 20 ≤ n) (headerLength : Nat)
    (source destination : V4Address) : (readdress d headerLength source destination).drop n = d.drop n := by
  obtain ⟨word, he⟩ := readdress_eq h headerLength source destination
  have hreplaced := length_replaceAddresses h source destination
  rw [he, Bytes.drop_patch (by omega) (by rw [Checksum.length_octets]; omega), replaceAddresses,
    Bytes.drop_patch (by omega)]
  rw [List.length_append, Address.length_octets_v4, Address.length_octets_v4]
  exact hn

/-- The segment that is declared does not notice other addresses. -/
theorem segment_readdress {header' : V4Header} (h : read d = .ok header) (hl : c.length = d.length)
    (hwords : header'.headerLength = header.headerLength) (htotal : header'.totalLength = header.totalLength)
    (source destination : V4Address) :
    header'.segment (readdress c header.headerLength source destination) =
      (c.take (Datagram.v4SegmentEnd header d.length)).drop header.headerLength := by
  obtain ⟨hmin, hhave⟩ := bounds_of_read h
  have hlen : 20 ≤ c.length := by omega
  have hstop : Datagram.v4SegmentEnd header' c.length = Datagram.v4SegmentEnd header d.length := by
    rw [Datagram.v4SegmentEnd, Datagram.v4SegmentEnd, hwords, htotal, hl]
  rw [segment, length_readdress hlen, hwords, hstop]
  exact Bytes.drop_take_congr (drop_readdress hlen hmin header.headerLength source destination)

end V4Header

namespace V6Header

variable {c d : Datagram} {header : V6Header}

/-- The segment that a header declares: the declared payload, or all the rest if none is declared. -/
def segment (header : V6Header) (d : Datagram) : List UInt8 :=
  (d.take (Datagram.v6SegmentEnd header d.length)).drop headerLength

theorem payloadLength_lt (h : read d = .ok header) : header.payloadLength < 65536 := by
  obtain ⟨hlen, -, rfl⟩ := read_eq_ok_iff.1 h
  exact Bytes.number_lt (by omega)

theorem drop_readdress (h : 40 ≤ d.length) (source destination : V6Address) :
    (readdress d source destination).drop headerLength = d.drop headerLength := by
  rw [readdress, Bytes.drop_patch (by omega)]
  rw [List.length_append, Address.length_octets_v6, Address.length_octets_v6]
  exact Nat.le_refl _

/-- The segment that is declared does not notice other addresses. -/
theorem segment_readdress {header' : V6Header} (h : read d = .ok header) (hl : c.length = d.length)
    (hpayload : header'.payloadLength = header.payloadLength) (source destination : V6Address) :
    header'.segment (readdress c source destination) =
      (c.take (Datagram.v6SegmentEnd header d.length)).drop headerLength := by
  have hmin := length_of_read h
  have hlen : 40 ≤ c.length := by omega
  have hstop : Datagram.v6SegmentEnd header' c.length = Datagram.v6SegmentEnd header d.length := by
    rw [Datagram.v6SegmentEnd, Datagram.v6SegmentEnd, hpayload, hl]
  rw [segment, length_readdress hlen, hstop]
  exact Bytes.drop_take_congr (drop_readdress hlen source destination)

end V6Header

/-! ## The datagram -/

namespace Datagram

variable {d : Datagram} {protocol : Protocol} {e : Endpoints}

/-- Over IPv4 the header has its fields but for the addresses, verifies, and stands in front of a segment that does. -/
theorem verified_withEndpoints_v4 {header : V4Header} (h : V4Header.read d = .ok header)
    (hp : Protocol.ofNumber header.protocol = protocol) {source destination : V4Address}
    (hs : e.source = .v4 source) (hd : e.destination = .v4 destination) :
    ∃ header', V4Header.read (withEndpoints d protocol e) = .ok header' ∧
      header'.headerLength = header.headerLength ∧ header'.totalLength = header.totalLength ∧
      header'.checksumOk = true ∧
      Segment.Verified protocol e (header.segment d) (header'.segment (withEndpoints d protocol e)) := by
  obtain ⟨hmin, hhave⟩ := V4Header.bounds_of_read h
  have hmax := V4Header.headerLength_le h
  have htotal := V4Header.totalLength_lt h
  obtain ⟨hstart, hstop⟩ := v4SegmentEnd_bounds hhave
  have hdeclared : v4SegmentEnd header d.length - header.headerLength < 65536 := by
    unfold v4SegmentEnd
    omega
  have hchanged := length_changeSegment protocol e hstart hstop
  rw [withEndpoints_v4 h hp hs hd]
  obtain ⟨header', hr, hwords, hlength, -, -, -, -⟩ :=
    V4Header.read_readdress h hchanged (take_changeSegment hhave) source destination
  refine ⟨header', hr, hwords, hlength, ?_, ?_⟩
  · rw [V4Header.checksumOk_iff hr, hwords]
    exact V4Header.checksum_readdress hmin hmax (by omega) source destination
  · rw [V4Header.segment_readdress h hchanged hwords hlength]
    exact verified_changeSegment protocol e hstart hstop hdeclared

/-- Over IPv6 a declared length of zero is left out: all the rest may be more than a sum of words can take. -/
theorem verified_withEndpoints_v6 {header : V6Header} (h : V6Header.read d = .ok header)
    (hp : Protocol.ofNumber header.nextHeader = protocol) (hdeclares : header.payloadLength ≠ 0)
    {source destination : V6Address} (hs : e.source = .v6 source) (hd : e.destination = .v6 destination) :
    ∃ header', V6Header.read (withEndpoints d protocol e) = .ok header' ∧
      header'.payloadLength = header.payloadLength ∧
      Segment.Verified protocol e (header.segment d) (header'.segment (withEndpoints d protocol e)) := by
  have hmin := V6Header.length_of_read h
  have hpayload := V6Header.payloadLength_lt h
  obtain ⟨hstart, hstop⟩ := v6SegmentEnd_bounds header hmin
  have hdeclared : v6SegmentEnd header d.length - V6Header.headerLength < 65536 := by
    rw [v6SegmentEnd, if_neg hdeclares]
    omega
  have hchanged := length_changeSegment protocol e hstart hstop
  rw [withEndpoints_v6 h hp hs hd]
  obtain ⟨header', hr, hlength, -, -, -, -⟩ :=
    V6Header.read_readdress h hchanged (take_changeSegment hmin) source destination
  refine ⟨header', hr, hlength, ?_⟩
  rw [V6Header.segment_readdress h hchanged hlength]
  exact verified_changeSegment protocol e hstart hstop hdeclared

end Datagram

namespace Packet

/-- A packet that has a header for its protocol, under other endpoints of the family of that header: the header has the
lengths it had, it verifies if it is an IPv4 header, and so does the segment that it declares. -/
theorem checksums_withEndpoints (p : Packet) (e : Endpoints) :
    (∀ header source destination, V4Header.read p.data = .ok header →
      Protocol.ofNumber header.protocol = p.metadata.protocol →
      e.source = .v4 source → e.destination = .v4 destination →
      ∃ header', V4Header.read (p.withEndpoints e).data = .ok header' ∧
        header'.headerLength = header.headerLength ∧ header'.totalLength = header.totalLength ∧
        header'.checksumOk = true ∧
        Segment.Verified p.metadata.protocol e (header.segment p.data)
          (header'.segment (p.withEndpoints e).data)) ∧
    (∀ header source destination, V6Header.read p.data = .ok header → header.payloadLength ≠ 0 →
      Protocol.ofNumber header.nextHeader = p.metadata.protocol →
      e.source = .v6 source → e.destination = .v6 destination →
      ∃ header', V6Header.read (p.withEndpoints e).data = .ok header' ∧
        header'.payloadLength = header.payloadLength ∧
        Segment.Verified p.metadata.protocol e (header.segment p.data)
          (header'.segment (p.withEndpoints e).data)) := by
  constructor
  · intro header source destination h hp hs hd
    exact Datagram.verified_withEndpoints_v4 h hp hs hd
  · intro header source destination h hdeclares hp hs hd
    exact Datagram.verified_withEndpoints_v6 h hp hdeclares hs hd

/-! ## Options and padding, and a query over IPv6 -/

/-- A segment of an odd length behind a header with options and in front of padding. -/
def optioned : Packet :=
  .new ([0x46, 0, 0, 45, 0, 0, 0x40, 0, 64, 6, 0, 0, 10, 1, 2, 3, 8, 8, 8, 8, 1, 1, 1, 0] ++
      Segment.tcp 1234 80 [0x68] ++ [0xFF, 0xFF, 0xFF])
    "eth0" ⟨some (.v4 0x0A010203), some (.v4 0x08080808), .tcp, 1234, 80, 48⟩

/-- A query that has no checksum yet. -/
def unsummed : Packet :=
  .new (V6Header.build 1 2 Segment.udpNumber (Segment.udp 1000 53 [0x71]))
    "eth0" ⟨some (.v6 1), some (.v6 2), .udp, 1000, 53, 49⟩

/-- Both verify from another source. -/
theorem optioned_and_unsummed_verify :
    (∃ header', V4Header.read (optioned.withEndpoints ⟨.v4 0xCB00710A, 40000, .v4 0x08080808, 80⟩).data = .ok header' ∧
      header'.headerLength = 24 ∧ header'.checksumOk = true ∧
      Segment.checksum (.v4 0xCB00710A) (.v4 0x08080808) Segment.tcpNumber
        (header'.segment (optioned.withEndpoints ⟨.v4 0xCB00710A, 40000, .v4 0x08080808, 80⟩).data) = 0) ∧
    ∃ header', V6Header.read (unsummed.withEndpoints ⟨.v6 3, 1000, .v6 2, 53⟩).data = .ok header' ∧
      Segment.checksum (.v6 3) (.v6 2) Segment.udpNumber
        (header'.segment (unsummed.withEndpoints ⟨.v6 3, 1000, .v6 2, 53⟩).data) = 0 := by
  constructor
  · obtain ⟨header', hr, hwords, -, hok, hverified⟩ :=
      (checksums_withEndpoints optioned ⟨.v4 0xCB00710A, 40000, .v4 0x08080808, 80⟩).1 _ _ _ rfl rfl rfl rfl
    refine ⟨header', hr, hwords, hok, hverified.tcp rfl ?_⟩
    rw [hverified.length]
    decide
  · obtain ⟨header', hr, -, hverified⟩ :=
      (checksums_withEndpoints unsummed ⟨.v6 3, 1000, .v6 2, 53⟩).2 _ _ _ rfl (by decide) rfl rfl rfl
    refine ⟨header', hr, (hverified.udp rfl ?_ (by decide)).1⟩
    rw [hverified.length]
    decide

end Packet

end Router
