import Router.Proofs.Header.Overwriting

/-!
# Endpoints and back

A datagram that carries endpoints (`Datagram.Carries`), as one that was read does (`Datagram.carries_of_read`), differs
from what it is under these endpoints at most in its checksums (`Datagram.withEndpoints_eq_self_iff`): addresses and
ports are written over with what stands there.

Main statement: the endpoints in between leave no trace, so a change made twice is made once, and a packet that is sent
out under other endpoints and back under its own comes back octet by octet exactly if its checksums were those that are
written for its own (`Packet.overwritten_withEndpoints`).
-/

namespace Router

/-! ## The segment -/

namespace Segment

variable {segment : List UInt8} {protocol : Protocol} {k : Endpoints} {offset : Nat}

/-- The octets of the checksum of a segment; none if it has none. -/
def storedChecksum (protocol : Protocol) (segment : List UInt8) : List UInt8 :=
  match checksumPlace? protocol segment.length with
  | some offset => (segment.drop offset).take 2
  | none => []

/-- That a segment has the ports of endpoints in front, if its protocol has ports and there is room for them. -/
def CarriesPorts (protocol : Protocol) (segment : List UInt8) (k : Endpoints) : Prop :=
  protocol.hasPorts = true → 4 ≤ segment.length → segment.take 4 = portOctets k

theorem storedChecksum_of_some (h : checksumPlace? protocol segment.length = some offset) :
    storedChecksum protocol segment = (segment.drop offset).take 2 := by
  simp only [storedChecksum, h]

/-- Under the ports that it has, a segment changes at most in its checksum. -/
theorem withEndpoints_eq_self_iff (hp : protocol.hasPorts = true) (hports : CarriesPorts protocol segment k) :
    withEndpoints segment protocol k = segment ↔
      storedChecksum protocol (withEndpoints segment protocol k) = storedChecksum protocol segment := by
  refine ⟨congrArg _, fun hstored => ?_⟩
  by_cases hroom : 4 ≤ segment.length
  · have hl := length_portOctets k
    have hrenumbered : Bytes.patch segment 0 (portOctets k) = segment := by
      rw [Bytes.patch_eq_self_iff (by omega), hl, List.drop_zero]
      exact hports hp hroom
    cases hplace : checksumPlace? protocol segment.length with
    | none => rw [withEndpoints_of_none hroom hplace, hrenumbered]
    | some offset =>
      obtain ⟨word, hword, he⟩ := withEndpoints_of_some hplace k
      have hinside := room_of_checksumPlace? hplace
      have hplace' : checksumPlace? protocol (withEndpoints segment protocol k).length = some offset := by
        rw [length_withEndpoints, hplace]
      rw [hrenumbered] at he
      have hwritten : ((withEndpoints segment protocol k).drop offset).take 2 = word := by
        rw [he, ← hword]
        exact Bytes.take_drop_patch (by omega)
      rw [storedChecksum_of_some hplace, storedChecksum_of_some hplace', hwritten] at hstored
      rw [he, Bytes.patch_eq_self_iff (by omega), hword]
      exact hstored.symm
  · exact withEndpoints_of_short (Nat.lt_of_not_le hroom)

/-- Ports that are read stand in front as they are written. -/
theorem take_of_ports {a b : UInt16} (h : ports segment = .ok (a, b)) :
    segment.take 4 = Bytes.ofNat 2 a.toNat ++ Bytes.ofNat 2 b.toNat := by
  by_cases hshort : segment.length < 4
  · rw [ports, dif_pos (by exact hshort)] at h
    cases h
  · have word {offset : Nat} (hroom : offset + 2 ≤ segment.length) :
        Bytes.ofNat 2 (UInt16.ofNat (Bytes.number segment offset 2)).toNat = (segment.drop offset).take 2 := by
      have hlt : Bytes.number segment offset 2 < 65536 := Bytes.number_lt hroom
      have hl : ((segment.drop offset).take 2).length = 2 := by
        rw [List.length_take, List.length_drop]
        omega
      have hread := Bytes.ofNat_toNat ((segment.drop offset).take 2)
      rw [hl] at hread
      rw [UInt16.toNat_ofNat', Nat.mod_eq_of_lt hlt]
      exact hread
    rw [ports_of_le (by omega), Except.ok.injEq, Prod.mk.injEq] at h
    rw [← h.1, ← h.2, word (by omega), word (by omega), List.drop_zero, ← List.take_add]

theorem carriesPorts_of_portsOf {rest : List UInt8} (h : portsOf protocol rest = .ok (k.sourcePort, k.destinationPort))
    (hfront : segment = rest.take segment.length) : CarriesPorts protocol segment k := by
  intro hp hroom
  rw [portsOf, if_pos hp] at h
  rw [hfront, List.take_take, Nat.min_eq_left hroom]
  exact take_of_ports h

end Segment

/-! ## The addresses -/

/-- The octets of an address that was read are those that were read. -/
theorem Address.octets_ofNat_v4 {bytes : List UInt8} (h : bytes.length = 4) :
    octets (.v4 (BitVec.ofNat 32 (Bytes.toNat bytes))) = bytes := by
  have hlt : Bytes.toNat bytes < Bytes.place 4 := h ▸ Bytes.toNat_lt bytes
  have hread := Bytes.ofNat_toNat bytes
  rw [h] at hread
  rw [octets, BitVec.toNat_ofNat, Nat.mod_eq_of_lt (by exact hlt), hread]

theorem Address.octets_ofNat_v6 {bytes : List UInt8} (h : bytes.length = 16) :
    octets (.v6 (BitVec.ofNat 128 (Bytes.toNat bytes))) = bytes := by
  have hlt : Bytes.toNat bytes < Bytes.place 16 := h ▸ Bytes.toNat_lt bytes
  have hread := Bytes.ofNat_toNat bytes
  rw [h] at hread
  rw [octets, BitVec.toNat_ofNat, Nat.mod_eq_of_lt (by exact hlt), hread]

namespace V4Header

variable {d : Datagram} {header : V4Header}

theorem octets_addresses (h : read d = .ok header) :
    Address.octets (.v4 header.source) ++ Address.octets (.v4 header.destination) = (d.drop 12).take 8 := by
  obtain ⟨hlen, -, -, -, rfl⟩ := read_eq_ok_iff.1 h
  dsimp only [fields, Bytes.number]
  rw [Address.octets_ofNat_v4, Address.octets_ofNat_v4, show (8 : Nat) = 4 + 4 from rfl, List.take_add, List.drop_drop]
  all_goals
    rw [List.length_take, List.length_drop]
    omega

/-- Under the addresses that it has, a header changes at most in its checksum. -/
theorem readdress_eq_self_iff (h : read d = .ok header) :
    readdress d header.headerLength header.source header.destination = d ↔
      ((readdress d header.headerLength header.source header.destination).drop 10).take 2 = (d.drop 10).take 2 := by
  refine ⟨fun he => by rw [he], fun hstored => ?_⟩
  obtain ⟨hmin, hhave⟩ := bounds_of_read h
  have hl := length_addresses header.source header.destination
  have hreplaced : replaceAddresses d header.source header.destination = d := by
    rw [replaceAddresses, Bytes.patch_eq_self_iff (by omega), hl]
    exact (octets_addresses h).symm
  obtain ⟨word, he⟩ := readdress_eq (show 20 ≤ d.length by omega) header.headerLength header.source header.destination
  have hword := Checksum.length_octets word
  rw [hreplaced] at he
  have hwritten : ((Bytes.patch d 10 (Checksum.octets word)).drop 10).take 2 = Checksum.octets word := by
    rw [← hword]
    exact Bytes.take_drop_patch (by omega)
  rw [he, hwritten] at hstored
  rw [he, Bytes.patch_eq_self_iff (by omega), hword]
  exact hstored.symm

end V4Header

namespace V6Header

variable {d : Datagram} {header : V6Header}

theorem octets_addresses (h : read d = .ok header) :
    Address.octets (.v6 header.source) ++ Address.octets (.v6 header.destination) = (d.drop 8).take 32 := by
  obtain ⟨hlen, -, rfl⟩ := read_eq_ok_iff.1 h
  dsimp only [fields, Bytes.number]
  rw [Address.octets_ofNat_v6, Address.octets_ofNat_v6, show (32 : Nat) = 16 + 16 from rfl, List.take_add,
    List.drop_drop]
  all_goals
    rw [List.length_take, List.length_drop]
    omega

/-- Under the addresses that it has, a header does not change. -/
theorem readdress_eq_self (h : read d = .ok header) : readdress d header.source header.destination = d := by
  have hmin := length_of_read h
  have hl := length_addresses header.source header.destination
  rw [readdress, Bytes.patch_eq_self_iff (by omega), hl]
  exact (octets_addresses h).symm

end V6Header

/-! ## The datagram -/

namespace Datagram

variable {d : Datagram} {protocol : Protocol} {k : Endpoints} {start stop : Nat}

/-- The checksums of a datagram: that of an IPv4 header, and that of the segment it declares. -/
def checksums (d : Datagram) (protocol : Protocol) : List (List UInt8) :=
  match V4Header.read d, V6Header.read d with
  | .ok header, _ => [(d.drop 10).take 2, Segment.storedChecksum protocol (header.segment d)]
  | .error _, .ok header => [Segment.storedChecksum protocol (header.segment d)]
  | .error _, .error _ => []

/-- That a datagram, if it has a header, has the addresses of endpoints there and their ports in the segment. -/
structure Carries (d : Datagram) (protocol : Protocol) (k : Endpoints) : Prop where
  v4 : ∀ header, V4Header.read d = .ok header →
    k.source = .v4 header.source ∧ k.destination = .v4 header.destination ∧
      Segment.CarriesPorts protocol (header.segment d) k
  v6 : ∀ header, V6Header.read d = .ok header →
    k.source = .v6 header.source ∧ k.destination = .v6 header.destination ∧
      Segment.CarriesPorts protocol (header.segment d) k

theorem checksums_v4 {header : V4Header} (h : V4Header.read d = .ok header) (protocol : Protocol) :
    checksums d protocol = [(d.drop 10).take 2, Segment.storedChecksum protocol (header.segment d)] := by
  simp only [checksums, h]

theorem checksums_v6 {header : V6Header} (h : V6Header.read d = .ok header) (protocol : Protocol) :
    checksums d protocol = [Segment.storedChecksum protocol (header.segment d)] := by
  cases h4 : V4Header.read d with
  | ok other => exact absurd h (V4Header.not_read_v6 h4)
  | error _ => simp only [checksums, h, h4]

theorem Carries.sameFamily (h : d.Carries protocol k) : d.SameFamily k where
  v4 header hr := by
    obtain ⟨hs, hd, -⟩ := h.v4 header hr
    exact ⟨by rw [hs]; rfl, by rw [hd]; rfl⟩
  v6 header hr := by
    obtain ⟨hs, hd, -⟩ := h.v6 header hr
    exact ⟨by rw [hs]; rfl, by rw [hd]; rfl⟩

/-- Under the ports that it has, a datagram changes at most in the checksum of its segment. -/
theorem changeSegment_eq_self (h : start ≤ stop) (hs : stop ≤ d.length)
    (hports : Segment.CarriesPorts protocol ((d.take stop).drop start) k)
    (hstored : Segment.storedChecksum protocol (((changeSegment d start stop protocol k).take stop).drop start) =
      Segment.storedChecksum protocol ((d.take stop).drop start)) :
    changeSegment d start stop protocol k = d := by
  have hroom := length_changed protocol k h hs
  rw [segment_changeSegment protocol k h hs] at hstored
  rw [changeSegment_eq_patch protocol k h hs]
  split
  · rename_i hp
    rw [if_pos hp] at hstored
    have hself := (Segment.withEndpoints_eq_self_iff hp hports).2 hstored
    rw [Bytes.patch_eq_self_iff hroom, hself, List.length_drop, Bytes.length_take_of_le hs, List.drop_take]
  · rfl

theorem withEndpoints_eq_self_v4 {header : V4Header} (has : d.HasV4 protocol header) (h : d.Carries protocol k)
    (hchecksums : checksums (withEndpoints d protocol k) protocol = checksums d protocol) :
    withEndpoints d protocol k = d := by
  obtain ⟨hs, hd, hports⟩ := h.v4 header has.read
  obtain ⟨hmin, hstart, hstop⟩ := v4Segment_bounds has.read
  have hchanged := length_changeSegment protocol k hstart hstop
  have he := withEndpoints_v4 has.read has.protocol hs hd
  obtain ⟨header', has', hwords, htotal⟩ := has.withEndpoints (h.sameFamily.v4 header has.read)
  rw [checksums_v4 has'.read, checksums_v4 has.read, he,
    V4Header.segment_readdress has.read hchanged hwords htotal] at hchecksums
  obtain ⟨hheader, hsegment, -⟩ := by simpa only [List.cons.injEq] using hchecksums
  -- the segment first: then the header is that of the same datagram
  have hself := changeSegment_eq_self hstart hstop hports hsegment
  rw [hself] at he hheader
  rw [he, V4Header.readdress_eq_self_iff has.read]
  exact hheader

theorem withEndpoints_eq_self_v6 {header : V6Header} (has : d.HasV6 protocol header) (h : d.Carries protocol k)
    (hchecksums : checksums (withEndpoints d protocol k) protocol = checksums d protocol) :
    withEndpoints d protocol k = d := by
  obtain ⟨hs, hd, hports⟩ := h.v6 header has.read
  obtain ⟨hmin, hstart, hstop⟩ := v6Segment_bounds has.read
  have hchanged := length_changeSegment protocol k hstart hstop
  have he := withEndpoints_v6 has.read has.protocol hs hd
  obtain ⟨header', has', hpayload⟩ := has.withEndpoints (h.sameFamily.v6 header has.read)
  rw [checksums_v6 has'.read, checksums_v6 has.read, he,
    V6Header.segment_readdress has.read hchanged hpayload] at hchecksums
  obtain ⟨hsegment, -⟩ := by simpa only [List.cons.injEq] using hchecksums
  rw [he, changeSegment_eq_self hstart hstop hports hsegment, V6Header.readdress_eq_self has.read]

/-- Under the endpoints that it carries, a datagram stays as it is exactly if its checksums do. -/
theorem withEndpoints_eq_self_iff (h : d.Carries protocol k) :
    withEndpoints d protocol k = d ↔ checksums (withEndpoints d protocol k) protocol = checksums d protocol := by
  refine ⟨fun he => by rw [he], fun hchecksums => ?_⟩
  by_cases hfits : d.Fits protocol k
  · obtain ⟨-, header, has⟩ | ⟨-, header, has⟩ := hfits
    · exact withEndpoints_eq_self_v4 has h hchecksums
    · exact withEndpoints_eq_self_v6 has h hchecksums
  · exact withEndpoints_of_not_fits hfits

/-- A datagram carries the endpoints that are read from it. -/
theorem carries_of_read {m : Metadata} (h : Metadata.read d = .ok m) (hk : m.endpoints? = some k) :
    d.Carries m.protocol k := by
  obtain ⟨hsource, hdestination, hsourcePort, hdestinationPort⟩ := Metadata.endpoints?_eq_some.1 hk
  obtain ⟨header, hr, hm⟩ | ⟨header, hr, hm⟩ := Metadata.read_eq_ok_iff.1 h
  · obtain ⟨hports, hs, hd, hprotocol, -⟩ := Metadata.ofHeader_eq_ok_iff.1 hm
    rw [← hprotocol, hsourcePort, hdestinationPort, V4Header.payload_of_read hr] at hports
    refine ⟨fun other ho => ?_, fun other ho => absurd ho (V4Header.not_read_v6 hr)⟩
    cases hr.symm.trans ho
    refine ⟨Option.some.inj (hsource.symm.trans hs), Option.some.inj (hdestination.symm.trans hd), ?_⟩
    refine Segment.carriesPorts_of_portsOf hports ?_
    rw [length_segment_v4 hr, V4Header.segment, List.drop_take]
  · obtain ⟨hports, hs, hd, hprotocol, -⟩ := Metadata.ofHeader_eq_ok_iff.1 hm
    rw [← hprotocol, hsourcePort, hdestinationPort, V6Header.payload_of_read hr] at hports
    refine ⟨fun other ho => absurd hr (V4Header.not_read_v6 ho), fun other ho => ?_⟩
    cases hr.symm.trans ho
    refine ⟨Option.some.inj (hsource.symm.trans hs), Option.some.inj (hdestination.symm.trans hd), ?_⟩
    refine Segment.carriesPorts_of_portsOf hports ?_
    rw [length_segment_v6 hr, V6Header.segment, List.drop_take]

end Datagram

/-! ## The packet -/

namespace Packet

/-- A packet under endpoints `a` and then `b`. If `b` is of the family of its header, it is what it would be under `b`
alone; so twice under the same endpoints is once, of whatever family they are. If `b` is what its datagram carries, the
datagram comes back exactly if its checksums are those that are written for `b`; and if `b` is what was read from it,
all of the packet comes back then. -/
theorem overwritten_withEndpoints (p : Packet) (a b : Endpoints) :
    (p.data.SameFamily b → (p.withEndpoints a).withEndpoints b = p.withEndpoints b) ∧
    (p.withEndpoints b).withEndpoints b = p.withEndpoints b ∧
    (p.data.Carries p.metadata.protocol b →
      (((p.withEndpoints a).withEndpoints b).data = p.data ↔
        (p.withEndpoints b).data.checksums p.metadata.protocol = p.data.checksums p.metadata.protocol)) ∧
    (Metadata.read p.data = .ok p.metadata → p.metadata.endpoints? = some b →
      ((p.withEndpoints a).withEndpoints b = p ↔
        (p.withEndpoints b).data.checksums p.metadata.protocol = p.data.checksums p.metadata.protocol)) := by
  have hlast (hb : p.data.SameFamily b) : (p.withEndpoints a).withEndpoints b = p.withEndpoints b :=
    withEndpoints_withEndpoints hb a
  refine ⟨hlast, withEndpoints_idem p b, fun hcarries => ?_, fun hread hb => ?_⟩
  · rw [hlast hcarries.sameFamily]
    exact Datagram.withEndpoints_eq_self_iff hcarries
  · have hcarries := Datagram.carries_of_read hread hb
    rw [hlast hcarries.sameFamily, withEndpoints_eq_self_iff hb]
    exact Datagram.withEndpoints_eq_self_iff hcarries

/-- The endpoints of the query over IPv6. -/
def unsummedInside : Endpoints := ⟨.v6 1, 1000, .v6 2, 53⟩

/-- Its endpoints behind a translation of the source. -/
def unsummedOutside : Endpoints := ⟨.v6 3, 4000, .v6 2, 53⟩

/-- Once it has its checksum, a query comes back as it was; before, it comes back with the checksum. -/
theorem summed_comes_back :
    ((unsummed.withEndpoints unsummedInside).withEndpoints unsummedOutside).withEndpoints unsummedInside =
        unsummed.withEndpoints unsummedInside ∧
      (unsummed.withEndpoints unsummedOutside).withEndpoints unsummedInside = unsummed.withEndpoints unsummedInside ∧
      (unsummed.withEndpoints unsummedOutside).withEndpoints unsummedInside ≠ unsummed := by
  have hcarries : unsummed.data.Carries .udp unsummedInside :=
    Datagram.carries_of_read (show Metadata.read unsummed.data = .ok unsummed.metadata from rfl) rfl
  obtain ⟨hlast, -, -, hback⟩ := overwritten_withEndpoints unsummed unsummedOutside unsummedInside
  obtain ⟨-, -, -, hagain⟩ :=
    overwritten_withEndpoints (unsummed.withEndpoints unsummedInside) unsummedOutside unsummedInside
  refine ⟨(hagain rfl rfl).2 ?_, hlast hcarries.sameFamily, fun h => ?_⟩
  · decide +kernel
  · exact absurd ((hback rfl rfl).1 h) (by decide)

end Packet

end Router
