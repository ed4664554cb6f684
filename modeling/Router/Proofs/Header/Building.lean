import Router.Proofs.Header.Verification

/-!
# What is built is read back

A datagram that was built around a body shows, under each reader, what it was built from: the header its addresses, its
numbers, the body, and its length as far as the field for it holds it (`V4Header.read_build`,
`V6Header.read_build`), and the segment its ports (`Content.portsOf_octets`). The checksum of an IPv4 header is written
last, and verifies over all that was written before. Main statement: `Packet.built_read_back`.
-/

namespace Router

/-! ## Parts side by side -/

namespace Bytes

variable {part : List UInt8} {offset width : Nat}

/-- A part between two others is read back. -/
theorem number_middle (front back : List UInt8) (ho : front.length = offset) (hw : part.length = width) :
    number (front ++ part ++ back) offset width = toNat part := by
  rw [number, List.append_assoc, List.drop_left' ho, List.take_left' hw]

theorem toNat_singleton (b : UInt8) : toNat [b] = b.toNat := by
  simp [toNat]

end Bytes

/-! ## IPv4 -/

namespace V4Header

variable {ttl number : UInt8} {source destination : V4Address} {body : List UInt8}

/-- The octets of a new header in front of its checksum. -/
def opening (ttl number : UInt8) (length : Nat) : List UInt8 :=
  [0x45, 0] ++ Bytes.ofNat 2 length ++ [0, 0, 0x40, 0, ttl, number]

/-- A new datagram without checksum and addresses. -/
def unaddressed (ttl number : UInt8) (body : List UInt8) : Datagram :=
  opening ttl number (20 + body.length) ++ List.replicate 10 0 ++ body

theorem length_opening (ttl number : UInt8) (length : Nat) : (opening ttl number length).length = 10 := by
  simp [opening]

theorem length_unaddressed (ttl number : UInt8) (body : List UInt8) :
    (unaddressed ttl number body).length = 20 + body.length := by
  simp [unaddressed, length_opening]
  omega

theorem build_eq (ttl number : UInt8) (source destination : V4Address) (body : List UInt8) :
    build ttl number source destination body = readdress (unaddressed ttl number body) 20 source destination := rfl

theorem length_build (ttl number : UInt8) (source destination : V4Address) (body : List UInt8) :
    (build ttl number source destination body).length = 20 + body.length := by
  have hl := length_unaddressed ttl number body
  rw [build_eq, length_readdress (by omega), hl]

/-- The numbers in the opening: version and words, total length, time to live, protocol. -/
theorem number_opening (ttl number : UInt8) (length : Nat) :
    Bytes.number (opening ttl number length) 0 1 = 0x45 ∧
      Bytes.number (opening ttl number length) 2 2 = length % 65536 ∧
      Bytes.number (opening ttl number length) 8 1 = ttl.toNat ∧
      Bytes.number (opening ttl number length) 9 1 = number.toNat := by
  refine ⟨rfl, ?_, Bytes.toNat_singleton ttl, Bytes.toNat_singleton number⟩
  have hmiddle := Bytes.number_middle [0x45, 0] [0, 0, 0x40, 0, ttl, number] rfl (Bytes.length_ofNat 2 length)
  exact hmiddle.trans (Bytes.toNat_ofNat 2 length)

theorem number_unaddressed {offset width : Nat} (h : offset + width ≤ 10) (ttl number : UInt8) (body : List UInt8) :
    Bytes.number (unaddressed ttl number body) offset width =
      Bytes.number (opening ttl number (20 + body.length)) offset width := by
  have hopening := length_opening ttl number (20 + body.length)
  refine Bytes.number_congr ?_ h
  rw [unaddressed, List.append_assoc, List.take_append_of_le_length (Nat.le_of_eq hopening.symm)]

/-- Checksum and addresses are written behind the opening. -/
theorem number_build {offset width : Nat} (h : offset + width ≤ 10) (ttl number : UInt8)
    (source destination : V4Address) (body : List UInt8) :
    Bytes.number (build ttl number source destination body) offset width =
      Bytes.number (opening ttl number (20 + body.length)) offset width := by
  have hl := length_unaddressed ttl number body
  have hlen : 20 ≤ (unaddressed ttl number body).length := by omega
  have hreplaced := length_replaceAddresses hlen source destination
  obtain ⟨word, he⟩ := readdress_eq hlen 20 source destination
  rw [← number_unaddressed h]
  refine Bytes.number_congr ?_ h
  rw [build_eq, he, Bytes.take_patch (by omega) (Nat.le_refl _), replaceAddresses,
    Bytes.take_patch (by omega) (by omega)]

theorem headerLength_unaddressed (ttl number : UInt8) (body : List UInt8) :
    (fields (unaddressed ttl number body)).headerLength = 20 := by
  dsimp only [fields]
  rw [number_unaddressed (by decide), (number_opening _ _ _).1]

theorem read_unaddressed (ttl number : UInt8) (body : List UInt8) :
    read (unaddressed ttl number body) = .ok (fields (unaddressed ttl number body)) := by
  have hl := length_unaddressed ttl number body
  have hwords := headerLength_unaddressed ttl number body
  refine read_eq_ok_iff.2 ⟨by omega, ?_, by omega, by omega, rfl⟩
  rw [number_unaddressed (by decide), (number_opening _ _ _).1]

/-- A new header has twenty octets and a checksum that verifies. -/
theorem read_build (ttl number : UInt8) (source destination : V4Address) (body : List UInt8) :
    read (build ttl number source destination body) = .ok {
      headerLength := 20
      totalLength := (20 + body.length) % 65536
      ttl := ttl.toNat
      protocol := number.toNat
      source
      destination
      payload := body
      checksumOk := true } := by
  have hl := length_unaddressed ttl number body
  obtain ⟨-, htotal, httl, hnumber⟩ := number_opening ttl number (20 + body.length)
  -- Under new addresses the header is read as before, but for the time to live and the checksum.
  obtain ⟨header, hr, hwords, -, -, hs, hd, hpayload⟩ :=
    read_readdress (read_unaddressed ttl number body) rfl rfl source destination
  rw [headerLength_unaddressed, ← build_eq] at hr
  rw [headerLength_unaddressed] at hwords hpayload
  have hok : header.checksumOk = true := by
    rw [checksumOk_iff hr, hwords, build_eq]
    exact checksum_readdress (Nat.le_refl _) (by decide) (by omega) source destination
  have hbody : (unaddressed ttl number body).drop 20 = body := List.drop_left' (by simp [length_opening])
  have hnumbers : header.totalLength = Bytes.number (opening ttl number (20 + body.length)) 2 2 ∧
      header.ttl = Bytes.number (opening ttl number (20 + body.length)) 8 1 ∧
      header.protocol = Bytes.number (opening ttl number (20 + body.length)) 9 1 := by
    rw [(read_eq_ok_iff.1 hr).2.2.2.2]
    exact ⟨number_build (by decide) .., number_build (by decide) .., number_build (by decide) ..⟩
  rw [htotal, httl, hnumber] at hnumbers
  obtain ⟨htotal, httl, hnumber⟩ := hnumbers
  rw [hr, Except.ok.injEq]
  calc header = ⟨header.headerLength, header.totalLength, header.ttl, header.protocol, header.source,
        header.destination, header.payload, header.checksumOk⟩ := rfl
    _ = _ := by rw [hwords, htotal, httl, hnumber, hs, hd, hpayload, hbody, hok]

end V4Header

/-! ## IPv6 -/

namespace V6Header

/-- The octets of a new header in front of its addresses. -/
def opening (nextHeader : UInt8) (length : Nat) : List UInt8 :=
  [0x60, 0, 0, 0] ++ Bytes.ofNat 2 length ++ [nextHeader, 64]

theorem length_opening (nextHeader : UInt8) (length : Nat) : (opening nextHeader length).length = 8 := by
  simp [opening]

theorem build_eq (source destination : V6Address) (nextHeader : UInt8) (body : List UInt8) :
    build source destination nextHeader body =
      opening nextHeader body.length ++ (Address.octets (.v6 source) ++ Address.octets (.v6 destination) ++ body) := by
  simp [build, opening]

theorem length_build (source destination : V6Address) (nextHeader : UInt8) (body : List UInt8) :
    (build source destination nextHeader body).length = 40 + body.length := by
  rw [build_eq, List.length_append, List.length_append, List.length_append, length_opening,
    Address.length_octets_v6, Address.length_octets_v6]
  omega

/-- The numbers in the opening: version, payload length, next header, hop limit. -/
theorem number_opening (nextHeader : UInt8) (length : Nat) :
    Bytes.number (opening nextHeader length) 0 1 = 0x60 ∧
      Bytes.number (opening nextHeader length) 4 2 = length % 65536 ∧
      Bytes.number (opening nextHeader length) 6 1 = nextHeader.toNat ∧
      Bytes.number (opening nextHeader length) 7 1 = 64 := by
  refine ⟨rfl, ?_, Bytes.toNat_singleton nextHeader, rfl⟩
  have hmiddle := Bytes.number_middle [0x60, 0, 0, 0] [nextHeader, 64] rfl (Bytes.length_ofNat 2 length)
  exact hmiddle.trans (Bytes.toNat_ofNat 2 length)

theorem number_build {offset width : Nat} (h : offset + width ≤ 8) (source destination : V6Address)
    (nextHeader : UInt8) (body : List UInt8) :
    Bytes.number (build source destination nextHeader body) offset width =
      Bytes.number (opening nextHeader body.length) offset width := by
  have hopening := length_opening nextHeader body.length
  refine Bytes.number_congr ?_ h
  rw [build_eq, List.take_append_of_le_length (Nat.le_of_eq hopening.symm)]

/-- A new header has the addresses, the next header and a hop limit of 64. -/
theorem read_build (source destination : V6Address) (nextHeader : UInt8) (body : List UInt8) :
    read (build source destination nextHeader body) = .ok {
      payloadLength := body.length % 65536
      nextHeader := nextHeader.toNat
      hopLimit := 64
      source
      destination
      payload := body } := by
  have hopening := length_opening nextHeader body.length
  have hs := Address.length_octets_v6 source
  have hd := Address.length_octets_v6 destination
  have hl := length_build source destination nextHeader body
  obtain ⟨hfirst, hlength, hnext, hhops⟩ := number_opening nextHeader body.length
  have hversion : Bytes.number (build source destination nextHeader body) 0 1 / 16 = 6 := by
    rw [number_build (by decide), hfirst]
  have hr := read_eq_ok_iff.2 ⟨by omega, hversion, rfl⟩
  have hsource : (fields (build source destination nextHeader body)).source = source := by
    refine source_of_read hr ?_
    rw [build_eq, List.append_assoc, List.drop_left' hopening, List.take_left' hs]
  have hdestination : (fields (build source destination nextHeader body)).destination = destination := by
    refine destination_of_read hr ?_
    rw [build_eq, ← List.append_assoc, ← List.append_assoc, List.append_assoc,
      List.drop_left' (by rw [List.length_append, hopening, hs]), List.take_left' hd]
  have hpayload : (fields (build source destination nextHeader body)).payload = body := by
    rw [payload_of_read hr, build_eq, ← List.append_assoc]
    exact List.drop_left' (by rw [List.length_append, List.length_append, hopening, hs, hd]; rfl)
  rw [hr, Except.ok.injEq]
  calc fields (build source destination nextHeader body) = ⟨Bytes.number _ 4 2, Bytes.number _ 6 1, Bytes.number _ 7 1,
        (fields (build source destination nextHeader body)).source,
        (fields (build source destination nextHeader body)).destination,
        (fields (build source destination nextHeader body)).payload⟩ := rfl
    _ = _ := by
      rw [number_build (by decide), number_build (by decide), number_build (by decide), hlength, hnext, hhops,
        hsource, hdestination, hpayload]

end V6Header

/-! ## Segments -/

namespace Segment

variable (sourcePort destinationPort : UInt16) (payload : List UInt8)

/-- Ports that are written in front are read back. -/
theorem ports_front (rest : List UInt8) :
    ports (Bytes.ofNat 2 sourcePort.toNat ++ Bytes.ofNat 2 destinationPort.toNat ++ rest) =
      .ok (sourcePort, destinationPort) := by
  refine ports_of_take (List.take_left' ?_)
  rw [List.length_append, Bytes.length_ofNat, Bytes.length_ofNat]

theorem ports_tcp : ports (tcp sourcePort destinationPort payload) = .ok (sourcePort, destinationPort) := by
  rw [tcp, List.append_assoc, ports_front]

theorem ports_udp : ports (udp sourcePort destinationPort payload) = .ok (sourcePort, destinationPort) := by
  rw [udp, List.append_assoc, List.append_assoc, ports_front]

theorem length_udp : (udp sourcePort destinationPort payload).length = udpLength + payload.length := by
  simp [udp, udpLength]
  omega

/-- The length in a UDP header is that of the segment as far as two octets hold it. -/
theorem number_length_udp :
    Bytes.number (udp sourcePort destinationPort payload) 4 2 =
      (udp sourcePort destinationPort payload).length % 65536 := by
  rw [length_udp, udp, List.append_assoc _ [0, 0]]
  refine (Bytes.number_middle _ _ ?_ (Bytes.length_ofNat 2 _)).trans (Bytes.toNat_ofNat 2 _)
  rw [List.length_append, Bytes.length_ofNat, Bytes.length_ofNat]

end Segment

/-- What a datagram is built around: a segment between two ports, or any octets at all. -/
inductive Content
  | tcp (sourcePort destinationPort : UInt16) (payload : List UInt8)
  | udp (sourcePort destinationPort : UInt16) (payload : List UInt8)
  | plain (octets : List UInt8)

namespace Content

/-- The octets that go behind a header. -/
def octets : Content → List UInt8
  | tcp sourcePort destinationPort payload => Segment.tcp sourcePort destinationPort payload
  | udp sourcePort destinationPort payload => Segment.udp sourcePort destinationPort payload
  | plain octets => octets

/-- Octets that are no segment go under the number of a protocol without ports. -/
def Suits (number : UInt8) : Content → Prop
  | plain _ => (Protocol.ofNumber number.toNat).hasPorts = false
  | _ => True

/-- The ports that were given, zero under the number of a protocol without ports. -/
def ports (number : UInt8) : Content → UInt16 × UInt16
  | tcp sourcePort destinationPort _ | udp sourcePort destinationPort _ =>
    if (Protocol.ofNumber number.toNat).hasPorts then (sourcePort, destinationPort) else (0, 0)
  | plain _ => (0, 0)

/-- The metadata of a datagram that is built around the content. -/
def metadata (content : Content) (number : UInt8) (source destination : Address) (length : Nat) : Metadata where
  source := some source
  destination := some destination
  protocol := .ofNumber number.toNat
  sourcePort := (content.ports number).1
  destinationPort := (content.ports number).2
  length := length

variable {number : UInt8} {content : Content}

theorem portsOf_octets (h : content.Suits number) :
    Segment.portsOf (.ofNumber number.toNat) content.octets = .ok (content.ports number) := by
  unfold Segment.portsOf
  cases content with
  | tcp sourcePort destinationPort payload =>
    rw [octets, Segment.ports_tcp, ports]
    split <;> rfl
  | udp sourcePort destinationPort payload =>
    rw [octets, Segment.ports_udp, ports]
    split <;> rfl
  | plain octets =>
    rw [if_neg (Bool.eq_false_iff.1 h)]
    rfl

theorem ofHeader_octets (h : content.Suits number) (source destination : Address) (length : Nat) :
    Metadata.ofHeader source destination number.toNat content.octets length =
      .ok (content.metadata number source destination length) :=
  Metadata.ofHeader_eq_ok_iff.2 ⟨portsOf_octets h, rfl, rfl, rfl, rfl⟩

end Content

/-! ## Datagrams -/

/-- A datagram that was built around a segment, or around any octets under the number of a protocol without ports, is a
packet with the given addresses, protocol and ports and its full length, and its header shows what it was built from. -/
theorem Packet.built_read_back (number : UInt8) (content : Content) (h : content.Suits number) (ingress : String) :
    (∀ (ttl : UInt8) (source destination : V4Address),
      let d := V4Header.build ttl number source destination content.octets
      d.length = 20 + content.octets.length ∧
      read d ingress = .ok (.new d ingress (content.metadata number (.v4 source) (.v4 destination) d.length)) ∧
      V4Header.read d = .ok {
        headerLength := 20
        totalLength := d.length % 65536
        ttl := ttl.toNat
        protocol := number.toNat
        source
        destination
        payload := content.octets
        checksumOk := true }) ∧
    (∀ source destination : V6Address,
      let d := V6Header.build source destination number content.octets
      d.length = 40 + content.octets.length ∧
      read d ingress = .ok (.new d ingress (content.metadata number (.v6 source) (.v6 destination) d.length)) ∧
      V6Header.read d = .ok {
        payloadLength := content.octets.length % 65536
        nextHeader := number.toNat
        hopLimit := 64
        source
        destination
        payload := content.octets }) ∧
    (∀ (sourcePort destinationPort : UInt16) (payload : List UInt8),
      content = .udp sourcePort destinationPort payload →
      Bytes.number content.octets 4 2 = content.octets.length % 65536) := by
  refine ⟨fun ttl source destination => ?_, fun source destination => ?_, ?_⟩
  · have hl := V4Header.length_build ttl number source destination content.octets
    have hr := V4Header.read_build ttl number source destination content.octets
    rw [← hl] at hr
    refine ⟨hl, ?_, hr⟩
    rw [read, Metadata.read_eq_ok_iff.2 (.inl ⟨_, hr, Content.ofHeader_octets h _ _ _⟩)]
    rfl
  · have hr := V6Header.read_build source destination number content.octets
    refine ⟨V6Header.length_build source destination number content.octets, ?_, hr⟩
    rw [read, Metadata.read_eq_ok_iff.2 (.inr ⟨_, hr, Content.ofHeader_octets h _ _ _⟩)]
    rfl
  · rintro sourcePort destinationPort payload rfl
    exact Segment.number_length_udp sourcePort destinationPort payload

/-- With 65528 octets in a UDP segment its length field and that of an IPv6 header are zero, and an IPv4 header declares
its own twenty octets. -/
theorem Packet.built_read_back_of_wrapped_length :
    (Content.udp 1234 53 (List.replicate 65528 0)).Suits 17 ∧
    (∀ source destination : V4Address,
      (V4Header.read (V4Header.build 64 17 source destination (Segment.udp 1234 53 (List.replicate 65528 0)))).map
        (fun header => (header.totalLength, header.checksumOk)) = .ok (20, true)) ∧
    (∀ source destination : V6Address,
      (V6Header.read (V6Header.build source destination 17 (Segment.udp 1234 53 (List.replicate 65528 0)))).map
        (fun header => (header.payloadLength, header.payload.length)) = .ok (0, 65536)) ∧
    Bytes.number (Segment.udp 1234 53 (List.replicate 65528 0)) 4 2 = 0 := by
  have hl : (Segment.udp 1234 53 (List.replicate 65528 0)).length = 65536 := by
    rw [Segment.length_udp, List.length_replicate, Segment.udpLength]
  obtain ⟨hv4, hv6, hudp⟩ := built_read_back 17 (.udp 1234 53 (List.replicate 65528 0)) trivial "lan0"
  refine ⟨trivial, fun source destination => ?_, fun source destination => ?_, ?_⟩
  · obtain ⟨hlength, -, hr⟩ := hv4 64 source destination
    rw [Content.octets] at hr hlength
    rw [hr, hlength, hl]
    rfl
  · obtain ⟨-, -, hr⟩ := hv6 source destination
    rw [Content.octets] at hr
    rw [hr, hl]
    simp only [Except.map, hl]
  · have hnumber := hudp 1234 53 _ rfl
    rw [Content.octets, hl] at hnumber
    exact hnumber

end Router
