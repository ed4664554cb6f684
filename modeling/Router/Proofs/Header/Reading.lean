import Router.Packet
import Router.Proofs.Bytes

/-!
# What is read from a datagram

Reading a header succeeds exactly when the octets it needs are there (`V4Header.read_eq_ok_iff`,
`V6Header.read_eq_ok_iff`), and the metadata are those of the header with the ports of its payload
(`Metadata.read_eq_ok_iff`). Main statement: a datagram with the same octets in front has a header of the same kind
(`V4Header.read_of_front`, `V6Header.read_of_front`), whatever its addresses are.
-/

namespace Router

theorem Address.ofNat_octets_v4 (a : V4Address) : BitVec.ofNat 32 (Bytes.toNat (octets (.v4 a))) = a := by
  rw [toNat_octets_v4, BitVec.ofNat_toNat, BitVec.setWidth_eq]

theorem Address.ofNat_octets_v6 (a : V6Address) : BitVec.ofNat 128 (Bytes.toNat (octets (.v6 a))) = a := by
  rw [toNat_octets_v6, BitVec.ofNat_toNat, BitVec.setWidth_eq]

/-! ## IPv4 -/

namespace V4Header

/-- The fields of a header, nothing checked. -/
def fields (d : Datagram) : V4Header where
  headerLength := Bytes.number d 0 1 % 16 * 4
  totalLength := Bytes.number d 2 2
  ttl := Bytes.number d 8 1
  protocol := Bytes.number d 9 1
  source := BitVec.ofNat 32 (Bytes.number d 12 4)
  destination := BitVec.ofNat 32 (Bytes.number d 16 4)
  payload := d.drop (Bytes.number d 0 1 % 16 * 4)
  checksumOk := Checksum.of (d.take (Bytes.number d 0 1 % 16 * 4)) = 0

variable {d d' : Datagram} {header : V4Header}

theorem read_eq_ok_iff :
    read d = .ok header ↔
      20 ≤ d.length ∧ Bytes.number d 0 1 / 16 = 4 ∧ 20 ≤ (fields d).headerLength ∧
        (fields d).headerLength ≤ d.length ∧ header = fields d := by
  unfold read minLength
  dsimp only [fields, Bytes.field_eq_number]
  constructor
  · intro hr
    split at hr
    · cases hr
    · rename_i hlen
      split at hr
      · cases hr
      · rename_i hversion
        split at hr
        · cases hr
        · rename_i hmin
          split at hr
          · cases hr
          · rename_i hhave
            cases hr
            exact ⟨by omega, by omega, by omega, by omega, rfl⟩
  · rintro ⟨h, hversion, hmin, hhave, rfl⟩
    rw [dif_neg (by omega), if_neg (by omega), if_neg (by omega), if_neg (by omega)]

theorem bounds_of_read (h : read d = .ok header) : 20 ≤ header.headerLength ∧ header.headerLength ≤ d.length := by
  obtain ⟨-, -, hmin, hhave, rfl⟩ := read_eq_ok_iff.1 h
  exact ⟨hmin, hhave⟩

theorem payload_of_read (h : read d = .ok header) : header.payload = d.drop header.headerLength := by
  obtain ⟨-, -, -, -, rfl⟩ := read_eq_ok_iff.1 h
  rfl

theorem source_of_read (h : read d = .ok header) {a : V4Address}
    (ha : (d.drop 12).take 4 = Address.octets (.v4 a)) : header.source = a := by
  obtain ⟨-, -, -, -, rfl⟩ := read_eq_ok_iff.1 h
  dsimp only [fields, Bytes.number]
  rw [ha, Address.ofNat_octets_v4]

theorem destination_of_read (h : read d = .ok header) {a : V4Address}
    (ha : (d.drop 16).take 4 = Address.octets (.v4 a)) : header.destination = a := by
  obtain ⟨-, -, -, -, rfl⟩ := read_eq_ok_iff.1 h
  dsimp only [fields, Bytes.number]
  rw [ha, Address.ofNat_octets_v4]

/-- All that decides whether there is a header, and how long it and its segment are, is in the first ten octets. -/
theorem read_of_front (h : read d = .ok header) (hl : d'.length = d.length) (hf : d'.take 10 = d.take 10) :
    ∃ header', read d' = .ok header' ∧ header'.headerLength = header.headerLength ∧
      header'.totalLength = header.totalLength ∧ header'.protocol = header.protocol := by
  obtain ⟨hlen, hversion, hmin, hhave, rfl⟩ := read_eq_ok_iff.1 h
  have same {offset width : Nat} (hw : offset + width ≤ 10) :
      Bytes.number d' offset width = Bytes.number d offset width :=
    Bytes.number_congr hf hw
  have hwords : (fields d').headerLength = (fields d).headerLength := by
    dsimp only [fields]
    rw [same (by omega)]
  refine ⟨fields d', read_eq_ok_iff.2 ⟨by omega, ?_, by omega, by omega, rfl⟩, hwords, same (by omega), same (by omega)⟩
  rw [same (by omega)]
  exact hversion

end V4Header

/-! ## IPv6 -/

namespace V6Header

/-- The fields of a header, nothing checked. -/
def fields (d : Datagram) : V6Header where
  payloadLength := Bytes.number d 4 2
  nextHeader := Bytes.number d 6 1
  hopLimit := Bytes.number d 7 1
  source := BitVec.ofNat 128 (Bytes.number d 8 16)
  destination := BitVec.ofNat 128 (Bytes.number d 24 16)
  payload := d.drop headerLength

variable {d d' : Datagram} {header : V6Header}

theorem read_eq_ok_iff : read d = .ok header ↔ 40 ≤ d.length ∧ Bytes.number d 0 1 / 16 = 6 ∧ header = fields d := by
  unfold read headerLength
  dsimp only [fields, Bytes.field_eq_number]
  constructor
  · intro hr
    split at hr
    · cases hr
    · rename_i hlen
      split at hr
      · cases hr
      · rename_i hversion
        cases hr
        exact ⟨by omega, by omega, rfl⟩
  · rintro ⟨h, hversion, rfl⟩
    rw [dif_neg (by omega), if_neg (by omega)]
    rfl

theorem length_of_read (h : read d = .ok header) : 40 ≤ d.length :=
  (read_eq_ok_iff.1 h).1

theorem payload_of_read (h : read d = .ok header) : header.payload = d.drop headerLength := by
  obtain ⟨-, -, rfl⟩ := read_eq_ok_iff.1 h
  rfl

theorem source_of_read (h : read d = .ok header) {a : V6Address}
    (ha : (d.drop 8).take 16 = Address.octets (.v6 a)) : header.source = a := by
  obtain ⟨-, -, rfl⟩ := read_eq_ok_iff.1 h
  dsimp only [fields, Bytes.number]
  rw [ha, Address.ofNat_octets_v6]

theorem destination_of_read (h : read d = .ok header) {a : V6Address}
    (ha : (d.drop 24).take 16 = Address.octets (.v6 a)) : header.destination = a := by
  obtain ⟨-, -, rfl⟩ := read_eq_ok_iff.1 h
  dsimp only [fields, Bytes.number]
  rw [ha, Address.ofNat_octets_v6]

/-- All that decides whether there is a header, and how long its segment is, is in the first eight octets. -/
theorem read_of_front (h : read d = .ok header) (hl : d'.length = d.length) (hf : d'.take 8 = d.take 8) :
    ∃ header', read d' = .ok header' ∧ header'.payloadLength = header.payloadLength ∧
      header'.nextHeader = header.nextHeader := by
  obtain ⟨hlen, hversion, rfl⟩ := read_eq_ok_iff.1 h
  have same {offset width : Nat} (hw : offset + width ≤ 8) :
      Bytes.number d' offset width = Bytes.number d offset width :=
    Bytes.number_congr hf hw
  refine ⟨fields d', read_eq_ok_iff.2 ⟨by omega, ?_, rfl⟩, same (by omega), same (by omega)⟩
  rw [same (by omega)]
  exact hversion

end V6Header

/-! ## Ports -/

namespace Segment

/-- The ports of a segment, both zero when the protocol has none. -/
def portsOf (protocol : Protocol) (segment : List UInt8) : Except Error (UInt16 × UInt16) :=
  if protocol.hasPorts then ports segment else .ok (0, 0)

variable {segment : List UInt8}

theorem ports_of_le (h : 4 ≤ segment.length) :
    ports segment = .ok (UInt16.ofNat (Bytes.number segment 0 2), UInt16.ofNat (Bytes.number segment 2 2)) :=
  dif_neg (Nat.not_lt_of_le h)

/-- Ports that were written are read back. -/
theorem ports_of_take {a b : UInt16} (h : segment.take 4 = Bytes.ofNat 2 a.toNat ++ Bytes.ofNat 2 b.toNat) :
    ports segment = .ok (a, b) := by
  have hl := congrArg List.length h
  rw [List.length_take, List.length_append, Bytes.length_ofNat, Bytes.length_ofNat] at hl
  have word (c : UInt16) : UInt16.ofNat (Bytes.toNat (Bytes.ofNat 2 c.toNat)) = c := by
    have hc : c.toNat < Bytes.place 2 := c.toNat_lt
    rw [Bytes.toNat_ofNat, Nat.mod_eq_of_lt hc, UInt16.ofNat_toNat]
  have hsource : segment.take 2 = Bytes.ofNat 2 a.toNat := by
    have := congrArg (List.take 2) h
    rwa [List.take_take, List.take_left' (Bytes.length_ofNat 2 a.toNat)] at this
  have hdestination : (segment.drop 2).take 2 = Bytes.ofNat 2 b.toNat := by
    have := congrArg (List.drop 2) h
    rwa [List.drop_take, List.drop_left' (Bytes.length_ofNat 2 a.toNat)] at this
  rw [ports_of_le (by omega)]
  simp only [Bytes.number, List.drop_zero, hsource, hdestination, word]

end Segment

/-! ## Metadata -/

namespace Metadata

variable {d : Datagram} {m : Metadata}

theorem ofHeader_eq_ok_iff {source destination : Address} {number length : Nat} {segment : List UInt8} :
    ofHeader source destination number segment length = .ok m ↔
      Segment.portsOf (.ofNumber number) segment = .ok (m.sourcePort, m.destinationPort) ∧ m.source = some source ∧
        m.destination = some destination ∧ m.protocol = .ofNumber number ∧ m.length = length := by
  cases m with
  | mk source' destination' protocol sourcePort destinationPort length' =>
    unfold ofHeader Segment.portsOf
    by_cases hp : (Protocol.ofNumber number).hasPorts = true
    · simp only [hp, if_true]
      cases Segment.ports segment with
      | error e => simp [Except.map]
      | ok ports => cases ports; simp [Except.map]; grind
    · simp [hp]; grind

theorem number_first (first : UInt8) (rest : List UInt8) : Bytes.number (first :: rest) 0 1 = first.toNat := by
  simp [Bytes.number, Bytes.toNat]

/-- The version chooses the header, and the header that can be read is of that version. -/
theorem read_eq_ok_iff :
    read d = .ok m ↔
      (∃ header, V4Header.read d = .ok header ∧
        ofHeader (.v4 header.source) (.v4 header.destination) header.protocol header.payload d.length = .ok m) ∨
      (∃ header, V6Header.read d = .ok header ∧
        ofHeader (.v6 header.source) (.v6 header.destination) header.nextHeader header.payload d.length = .ok m) := by
  constructor
  · intro h
    cases d with
    | nil => cases h
    | cons first rest =>
      unfold read at h
      dsimp only at h
      split at h
      · cases hr : V4Header.read (first :: rest) with
        | error e => rw [hr] at h; cases h
        | ok header => rw [hr] at h; exact .inl ⟨header, rfl, h⟩
      · split at h
        · cases hr : V6Header.read (first :: rest) with
          | error e => rw [hr] at h; cases h
          | ok header => rw [hr] at h; exact .inr ⟨header, rfl, h⟩
        · cases h
  · rintro (⟨header, hr, hm⟩ | ⟨header, hr, hm⟩)
    · obtain ⟨-, hversion, -⟩ := V4Header.read_eq_ok_iff.1 hr
      cases d with
      | nil => cases hr
      | cons first rest =>
        rw [number_first] at hversion
        unfold read
        dsimp only
        rw [if_pos hversion, hr]
        exact hm
    · obtain ⟨-, hversion, -⟩ := V6Header.read_eq_ok_iff.1 hr
      cases d with
      | nil => cases hr
      | cons first rest =>
        rw [number_first] at hversion
        unfold read
        dsimp only
        rw [if_neg (by omega), if_pos hversion, hr]
        exact hm

end Metadata

theorem Packet.metadata_of_read {d : Datagram} {ingress : String} {p : Packet} (h : read d ingress = .ok p) :
    p.data = d ∧ Metadata.read p.data = .ok p.metadata := by
  unfold read at h
  cases hm : Metadata.read d with
  | error e => rw [hm] at h; cases h
  | ok m =>
    rw [hm] at h
    cases h
    exact ⟨rfl, hm⟩

end Router
