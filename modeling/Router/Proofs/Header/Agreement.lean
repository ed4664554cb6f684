import Router.Proofs.Header.Rewriting

/-!
# What a datagram shows of its packet's metadata

The metadata of a packet follow its endpoints in any case. Its datagram follows as far as its header lets it: the ports
are read from all that stands behind the header, but written only into the segment that the header declares. Main
statement: a TCP or UDP datagram can be read again, and what is read are the metadata, but with the old ports where the
declared segment has no room for ports (`reread_withEndpoints`). A total length that was left at zero leaves no room
(`offloaded_keeps_ports`).
-/

namespace Router.Packet

variable {d : Datagram} {ingress : String} {p : Packet} {e : Endpoints}

/-- Metadata with ports of others. -/
def portsKept (m old : Metadata) : Metadata :=
  { m with sourcePort := old.sourcePort, destinationPort := old.destinationPort }

/-- What the datagram shows of new endpoints are all of them, or the addresses with the ports it had. -/
theorem withEndpoints_shown (p : Packet) (e : Endpoints) (hports : p.metadata.protocol.hasPorts = true) :
    p.metadata.withEndpoints (p.data.shown p.metadata e) =
      if 4 ≤ p.data.segmentLength then (p.withEndpoints e).metadata
      else portsKept (p.withEndpoints e).metadata p.metadata := by
  by_cases hroom : 4 ≤ p.data.segmentLength
  · have hcarries : p.data.carriesPorts p.metadata.protocol = true := by simp [Datagram.carriesPorts, hports, hroom]
    rw [Datagram.shown, if_pos hcarries, if_pos hroom]
    rfl
  · have hcarries : ¬ p.data.carriesPorts p.metadata.protocol = true := by simp [Datagram.carriesPorts, hroom]
    rw [Datagram.shown, if_neg hcarries, if_neg hroom]
    rfl

theorem portsKept_eq_iff (p : Packet) (e : Endpoints) :
    portsKept (p.withEndpoints e).metadata p.metadata = (p.withEndpoints e).metadata ↔
      e.sourcePort = p.metadata.sourcePort ∧ e.destinationPort = p.metadata.destinationPort := by
  constructor
  · intro h
    exact ⟨(congrArg Metadata.sourcePort h).symm, (congrArg Metadata.destinationPort h).symm⟩
  · rintro ⟨hs, hd⟩
    rw [portsKept, ← hs, ← hd]
    rfl

/-- A packet that was read knows its endpoints, and both are of one family. -/
theorem endpoints?_of_read (h : read d ingress = .ok p) :
    ∃ k, p.metadata.endpoints? = some k ∧ p.metadata.source = some k.source ∧
      p.metadata.destination = some k.destination ∧ k.destination.isV4 = k.source.isV4 := by
  obtain ⟨rfl, hread⟩ := metadata_of_read h
  obtain ⟨source, destination, hs, hd⟩ :
      ∃ source destination, p.metadata.source = some source ∧ p.metadata.destination = some destination := by
    obtain ⟨header, -, hm⟩ | ⟨header, -, hm⟩ := Metadata.read_eq_ok_iff.1 hread
    · obtain ⟨-, hs, hd, -, -⟩ := Metadata.ofHeader_eq_ok_iff.1 hm
      exact ⟨_, _, hs, hd⟩
    · obtain ⟨-, hs, hd, -, -⟩ := Metadata.ofHeader_eq_ok_iff.1 hm
      exact ⟨_, _, hs, hd⟩
  have hk : p.metadata.endpoints? =
      some ⟨source, p.metadata.sourcePort, destination, p.metadata.destinationPort⟩ :=
    Metadata.endpoints?_eq_some.2 ⟨hs, hd, rfl, rfl⟩
  exact ⟨_, hk, hs, hd, Metadata.family_of_read hread hk⟩

/-- A TCP or UDP packet under other endpoints of its family: its datagram can be read, to its metadata if the declared
segment has room for the ports, and else to its metadata with the ports that it was read with. So the two agree exactly
if there is room or the ports are the same. -/
theorem reread_withEndpoints (h : read d ingress = .ok p) (hports : p.metadata.protocol.hasPorts = true)
    (hs : p.metadata.source.map Address.isV4 = some e.source.isV4)
    (hd : p.metadata.destination.map Address.isV4 = some e.destination.isV4) :
    Metadata.read (p.withEndpoints e).data =
      .ok (if 4 ≤ d.segmentLength then (p.withEndpoints e).metadata
        else portsKept (p.withEndpoints e).metadata p.metadata) ∧
    (Metadata.read (p.withEndpoints e).data = .ok (p.withEndpoints e).metadata ↔
      4 ≤ d.segmentLength ∨
        (e.sourcePort = p.metadata.sourcePort ∧ e.destinationPort = p.metadata.destinationPort)) := by
  obtain ⟨k, hk, hsource, hdestination, hfamily⟩ := endpoints?_of_read h
  obtain ⟨rfl, hread⟩ := metadata_of_read h
  rw [hsource, Option.map_some, Option.some.injEq] at hs
  rw [hdestination, Option.map_some, Option.some.injEq] at hd
  have hreread : Metadata.read (p.withEndpoints e).data =
      .ok (if 4 ≤ p.data.segmentLength then (p.withEndpoints e).metadata
        else portsKept (p.withEndpoints e).metadata p.metadata) := by
    rw [← withEndpoints_shown p e hports]
    exact Metadata.read_withEndpoints hread hk hs.symm (hd.symm.trans hfamily)
  refine ⟨hreread, ?_⟩
  rw [hreread, Except.ok.injEq]
  by_cases hroom : 4 ≤ p.data.segmentLength
  · rw [if_pos hroom]
    exact iff_of_true rfl (.inl hroom)
  · rw [if_neg hroom, or_iff_right hroom]
    exact portsKept_eq_iff p e

/-! ## A query whose length is filled in or not -/

/-- A query of the host `10.1.2.3` to a name server, under a total length. -/
def queryOfLength (total : UInt8) : Datagram :=
  [0x45, 0, 0, total, 0, 0, 0x40, 0, 64, 17, 0, 0, 10, 1, 2, 3, 8, 8, 8, 8] ++ Segment.udp 1234 53 []

/-- The packet of a query. -/
def query (total : UInt8) : Packet :=
  .new (queryOfLength total) "lan0" ⟨some (.v4 0x0A010203), some (.v4 0x08080808), .udp, 1234, 53, 28⟩

/-- The endpoints of a query from another address and port. -/
def queryOutside : Endpoints :=
  ⟨.v4 0xCB00710A, 40000, .v4 0x08080808, 53⟩

/-- With its length in place a query shows all of its new endpoints. -/
theorem filled_in_shows_ports :
    read (queryOfLength 28) "lan0" = .ok (query 28) ∧
      Metadata.read ((query 28).withEndpoints queryOutside).data =
        .ok ((query 28).withEndpoints queryOutside).metadata :=
  have h : read (queryOfLength 28) "lan0" = .ok (query 28) := rfl
  ⟨h, (reread_withEndpoints (e := queryOutside) h rfl rfl rfl).2.2 (.inl (by decide))⟩

/-- Without a length, as it is handed down for the network card to fill it in, it shows the old ports. -/
theorem offloaded_keeps_ports :
    ¬ ∀ (d : Datagram) (ingress : String) (p : Packet) (e : Endpoints), read d ingress = .ok p →
      p.metadata.protocol.hasPorts = true → p.metadata.source.map Address.isV4 = some e.source.isV4 →
      p.metadata.destination.map Address.isV4 = some e.destination.isV4 →
      Metadata.read (p.withEndpoints e).data = .ok (p.withEndpoints e).metadata := by
  intro h
  have hread : read (queryOfLength 0) "lan0" = .ok (query 0) := rfl
  have hkept : Metadata.read ((query 0).withEndpoints queryOutside).data =
      .ok (portsKept ((query 0).withEndpoints queryOutside).metadata (query 0).metadata) := rfl
  have hagrees := h _ _ _ queryOutside hread rfl rfl rfl
  rw [hkept, Except.ok.injEq] at hagrees
  exact absurd hagrees (by decide)

end Router.Packet
