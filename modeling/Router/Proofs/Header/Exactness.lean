import Router.Proofs.Header.Verification

/-!
# Checksums of long segments

The sum of a checksum stays in 16 bits if the carry of each addition comes back in at the low end (`carrySum`). The
router adds up in 32 bits and brings the carries back at the end, which comes to the same as long as nothing is carried
out of the 32 bits (`carrySum_eq`, `toNat_fold`); what is carried out there is lost.

- the octets of the pseudo-header add up to what the accumulator starts from (`Segment.residue_pseudoTotal`);
- what is lost shows unless it is nothing, or a multiple of 65535 beside a rest (`residue_mod_eq_iff`).

Main statement: the checksum is the one with all carries exactly if nothing that shows is lost, and so for every segment
that a header can declare (`Segment.checksum_exact_iff`). A segment without declared length runs to the end of the
buffer and may be longer than that (`Segment.jumbogram_missummed`).
-/

namespace Router

namespace Checksum

/-! ## Sums in 16 bits -/

/-- The sum of two words in 16 bits, with the carry at the low end. -/
def endAround (a b : Nat) : Nat :=
  (a + b) % 65536 + (a + b) / 65536

/-- The sum of the 16-bit words of octets, each addition in 16 bits, an odd last octet padded with zero. -/
def carrySum : List UInt8 → Nat
  | [] => 0
  | [last] => last.toNat * 256
  | a :: b :: rest => endAround (a.toNat * 256 + b.toNat) (carrySum rest)

/-- The checksum of octets with all carries. -/
def byCarries (bytes : List UInt8) : UInt16 :=
  ~~~ UInt16.ofNat (carrySum bytes)

/-- The one value in 16 bits that a number has modulo 65535 and that is zero only for zero. -/
def residue (total : Nat) : Nat :=
  if total = 0 then 0 else (total - 1) % 65535 + 1

theorem residue_lt (total : Nat) : residue total < 65536 := by
  unfold residue
  split <;> omega

theorem residue_congr {a b : Nat} (h : a % 65535 = b % 65535) (hzero : a = 0 ↔ b = 0) : residue a = residue b := by
  unfold residue
  split <;> split <;> omega

theorem endAround_residue {word : Nat} (h : word < 65536) (total : Nat) :
    endAround word (residue total) = residue (word + total) := by
  unfold endAround residue
  split <;> split <;> omega

/-- To bring each carry back at once is to reduce the whole sum. -/
theorem carrySum_eq (bytes : List UInt8) : carrySum bytes = residue (sum bytes) := by
  fun_induction carrySum bytes with
  | case1 => rfl
  | case2 last =>
    have hlast := last.toNat_lt
    unfold sum residue
    split <;> omega
  | case3 a b rest ih =>
    have ha := a.toNat_lt
    have hb := b.toNat_lt
    rw [ih, sum, endAround_residue (by omega)]

theorem toNat_byCarries (bytes : List UInt8) : (byCarries bytes).toNat = 65535 - residue (sum bytes) := by
  have hlt := residue_lt (sum bytes)
  rw [byCarries, toNat_complement, carrySum_eq, UInt16.toNat_ofNat', Nat.mod_eq_of_lt hlt]

/-! ## What 32 bits lose -/

/-- Each time that the accumulator wraps one is lost in 16 bits. So a sum that wraps shows it, unless the accumulator
wraps 65535 times as often as anything and has a rest. -/
theorem residue_mod_eq_iff (total : Nat) :
    residue (total % 4294967296) = residue total ↔
      total < 4294967296 ∨ (total % 4294967296 ≠ 0 ∧ total / 4294967296 % 65535 = 0) := by
  unfold residue
  split <;> split <;> omega

/-- Words of all ones add up to 65535 each. -/
theorem sum_replicate_ones (n : Nat) : sum (List.replicate (2 * n) 0xFF) = 65535 * n := by
  induction n with
  | zero => rfl
  | succ n ih =>
    have hones : (0xFF : UInt8).toNat = 255 := rfl
    have hwords : List.replicate (2 * (n + 1)) (0xFF : UInt8) = 0xFF :: 0xFF :: List.replicate (2 * n) 0xFF := rfl
    rw [hwords, sum, ih, hones]
    omega

end Checksum

namespace Segment

variable (source destination : Address) (number : UInt8)

/-! ## The pseudo-header -/

/-- A length in the two octets that a pseudo-header of IPv4 has for it, or in four if they cannot hold it. -/
def lengthOctets (length : Nat) : List UInt8 :=
  if length < 65536 then Bytes.ofNat 2 length else Bytes.ofNat 4 length

/-- The octets in front of a segment that its checksum covers. Between IPv4 addresses: both of them, a zero, the protocol
and the length. Otherwise: both addresses as IPv6 carries them, the length in four octets, three zeros and the
protocol. -/
def pseudoHeader (length : Nat) : List UInt8 :=
  if source.isV4 && destination.isV4 then
    source.octets ++ destination.octets ++ [0, number] ++ lengthOctets length
  else source.mappedOctets ++ destination.mappedOctets ++ Bytes.ofNat 4 length ++ [0, 0, 0, number]

/-- What the accumulator has added up before the segment, if nothing of it is lost: a length between IPv4 addresses
counts as one number, however long. -/
def pseudoTotal (length : Nat) : Nat :=
  let low := length % 4294967296
  if source.isV4 && destination.isV4 then
    Checksum.sum (source.octets ++ destination.octets) + number.toNat + low
  else
    Checksum.sum (source.mappedOctets ++ destination.mappedOctets) + low / 65536 + low % 65536 + number.toNat

theorem toNat_pseudoSum (length : Nat) :
    (pseudoSum source destination number length).toNat = pseudoTotal source destination number length % 4294967296 := by
  have hnumber : number.toUInt32.toNat = number.toNat := UInt8.toNat_toUInt32 number
  have hlength : (UInt32.ofNat length).toNat = length % 4294967296 := UInt32.toNat_ofNat'
  have hhigh : (UInt32.ofNat length >>> (16 : UInt32)).toNat = length % 4294967296 / 65536 := by
    rw [Checksum.toNat_high, hlength]
  have hlow : (UInt32.ofNat length &&& (0xFFFF : UInt32)).toNat = length % 4294967296 % 65536 := by
    rw [Checksum.toNat_low, hlength]
  unfold pseudoSum pseudoTotal
  dsimp only
  split
  · rw [UInt32.toNat_add, UInt32.toNat_add, Checksum.toNat_addWords, hnumber, hlength, UInt32.toNat_zero]
    omega
  · rw [UInt32.toNat_add, UInt32.toNat_add, UInt32.toNat_add, Checksum.toNat_addWords, hnumber, hhigh, hlow,
      UInt32.toNat_zero]
    omega

theorem sum_ofNat_two {length : Nat} (h : length < 65536) : Checksum.sum (Bytes.ofNat 2 length) = length := by
  rw [Checksum.sum_pair (Bytes.length_ofNat 2 length), Bytes.toNat_ofNat]
  exact Nat.mod_eq_of_lt h

theorem sum_ofNat_four (length : Nat) :
    Checksum.sum (Bytes.ofNat 4 length) = length % 4294967296 / 65536 + length % 65536 := by
  simp only [Bytes.ofNat, Checksum.sum, Bytes.place, UInt8.toNat_ofNat']
  omega

/-- A length adds up to itself, but for the carry of what two octets cannot hold. -/
theorem residue_add_lengthOctets (rest length : Nat) :
    Checksum.residue (rest + length % 4294967296) = Checksum.residue (rest + Checksum.sum (lengthOctets length)) := by
  unfold lengthOctets
  split
  · rename_i h
    rw [sum_ofNat_two h, Nat.mod_eq_of_lt (by omega)]
  · rw [sum_ofNat_four]
    exact Checksum.residue_congr (by omega) (by omega)

theorem even_append {front back : List UInt8} (hf : front.length % 2 = 0) (hb : back.length % 2 = 0) :
    (front ++ back).length % 2 = 0 := by
  rw [List.length_append]
  omega

theorem even_addresses : (source.octets ++ destination.octets).length % 2 = 0 := by
  have h (a : Address) : a.octets.length % 2 = 0 := by cases a <;> simp [Address.octets]
  exact even_append (h source) (h destination)

theorem even_mappedAddresses : (source.mappedOctets ++ destination.mappedOctets).length % 2 = 0 := by
  rw [List.length_append, Address.length_mappedOctets, Address.length_mappedOctets]

theorem even_lengthOctets (length : Nat) : (lengthOctets length).length % 2 = 0 := by
  unfold lengthOctets
  split <;> rw [Bytes.length_ofNat]

theorem even_pseudoHeader (length : Nat) : (pseudoHeader source destination number length).length % 2 = 0 := by
  unfold pseudoHeader
  split
  · exact even_append (even_append (even_addresses source destination) (by simp)) (even_lengthOctets length)
  · refine even_append (even_append (even_mappedAddresses source destination) ?_) (by simp)
    rw [Bytes.length_ofNat]

/-- In 16 bits the accumulator starts from the sum of the pseudo-header. -/
theorem residue_pseudoTotal (length rest : Nat) :
    Checksum.residue (pseudoTotal source destination number length + rest) =
      Checksum.residue (Checksum.sum (pseudoHeader source destination number length) + rest) := by
  have hprotocol : Checksum.sum [0, number] = number.toNat := by simp [Checksum.sum]
  have hpadded : Checksum.sum [0, 0, 0, number] = number.toNat := by simp [Checksum.sum]
  unfold pseudoTotal pseudoHeader
  dsimp only
  split
  · have heven := even_addresses source destination
    rw [Checksum.sum_append (even_append heven (by simp)), Checksum.sum_append heven, hprotocol, Nat.add_right_comm,
      residue_add_lengthOctets, Nat.add_right_comm]
  · have heven := even_mappedAddresses source destination
    rw [Checksum.sum_append (even_append heven (by rw [Bytes.length_ofNat])), Checksum.sum_append heven,
      sum_ofNat_four, hpadded, Nat.mod_mod_of_dvd length (by decide), Nat.add_assoc (Checksum.sum _)]

/-! ## The checksum -/

variable (segment : List UInt8)

/-- What the accumulator would add up to if it never wrapped. -/
def total : Nat :=
  pseudoTotal source destination number segment.length + Checksum.sum segment

theorem toNat_checksum :
    (checksum source destination number segment).toNat =
      65535 - Checksum.residue (total source destination number segment % 4294967296) := by
  have hacc : (Checksum.addWords segment (pseudoSum source destination number segment.length)).toNat =
      total source destination number segment % 4294967296 := by
    rw [Checksum.toNat_addWords, toNat_pseudoSum, total]
    omega
  rw [checksum, Checksum.toNat_complement, Checksum.toNat_fold, hacc]
  rfl

/-- The checksum with all carries, of the pseudo-header and the segment behind it. -/
def carriedChecksum : UInt16 :=
  Checksum.byCarries (pseudoHeader source destination number segment.length ++ segment)

theorem toNat_carriedChecksum :
    (carriedChecksum source destination number segment).toNat =
      65535 - Checksum.residue (total source destination number segment) := by
  rw [carriedChecksum, Checksum.toNat_byCarries, Checksum.sum_append (even_pseudoHeader _ _ _ _), total,
    residue_pseudoTotal]

/-- The checksum has all carries exactly if the accumulator does not wrap, or wraps so often that it makes no
difference. -/
theorem checksum_eq_iff :
    checksum source destination number segment = carriedChecksum source destination number segment ↔
      total source destination number segment < 4294967296 ∨
        (total source destination number segment % 4294967296 ≠ 0 ∧
          total source destination number segment / 4294967296 % 65535 = 0) := by
  have hcut := Checksum.residue_lt (total source destination number segment % 4294967296)
  have hfull := Checksum.residue_lt (total source destination number segment)
  rw [← UInt16.toNat_inj, toNat_checksum, toNat_carriedChecksum, ← Checksum.residue_mod_eq_iff]
  omega

theorem pseudoTotal_le (length : Nat) :
    pseudoTotal source destination number length ≤ 1048815 + length := by
  have hnumber := number.toNat_lt
  have hbare := Checksum.sum_le (source.octets ++ destination.octets)
  have hmapped := Checksum.sum_le (source.mappedOctets ++ destination.mappedOctets)
  have hs := source.length_octets_le
  have hd := destination.length_octets_le
  rw [List.length_append] at hbare
  rw [List.length_append, Address.length_mappedOctets, Address.length_mappedOctets] at hmapped
  unfold pseudoTotal
  dsimp only
  split <;> omega

/-- A segment of up to 131000 octets, twice as many as a header can declare, is too short for the accumulator to wrap. -/
theorem total_lt (h : segment.length ≤ 131000) : total source destination number segment < 4294967296 := by
  have hpseudo := pseudoTotal_le source destination number segment.length
  have hsegment := Checksum.sum_le segment
  unfold total
  omega

/-- The checksum of a segment behind its pseudo-header is the one with all carries exactly if the accumulator does not
wrap, or wraps a multiple of 65535 times and does not end at zero; so it is for all segments of up to 131000 octets. -/
theorem checksum_exact_iff :
    (checksum source destination number segment = carriedChecksum source destination number segment ↔
      total source destination number segment < 4294967296 ∨
        (total source destination number segment % 4294967296 ≠ 0 ∧
          total source destination number segment / 4294967296 % 65535 = 0)) ∧
    (segment.length ≤ 131000 →
      checksum source destination number segment = carriedChecksum source destination number segment) := by
  have hiff := checksum_eq_iff source destination number segment
  exact ⟨hiff, fun h => hiff.2 (.inl (total_lt source destination number segment h))⟩

/-! ## Segments without declared length -/

/-- A segment of ones that fills words. -/
def ones (words : Nat) : List UInt8 :=
  List.replicate (2 * words) 0xFF

/-- The host `2001:db8::n`. -/
def jumboHost (n : Nat) : Address :=
  .v6 (0x20010DB8000000000000000000000000 + BitVec.ofNat 128 n)

/-- Beyond what a header can declare, a segment may still be short enough. -/
theorem jumbogram_exact :
    65535 < (ones 65000).length ∧ (ones 65000).length ≤ 131000 ∧
      checksum (jumboHost 1) (jumboHost 2) udpNumber (ones 65000) =
        carriedChecksum (jumboHost 1) (jumboHost 2) udpNumber (ones 65000) :=
  have h : (ones 65000).length = 130000 := List.length_replicate
  ⟨by omega, by omega, (checksum_exact_iff (jumboHost 1) (jumboHost 2) udpNumber (ones 65000)).2 (by omega)⟩

/-- Of a longer one the accumulator loses a carry. -/
theorem jumbogram_missummed :
    ¬ ∀ (source destination : Address) (number : UInt8) (segment : List UInt8),
      checksum source destination number segment = carriedChecksum source destination number segment := by
  intro h
  have hlength : (ones 65537).length = 131074 := List.length_replicate
  have hsegment : Checksum.sum (ones 65537) = 4294967295 := Checksum.sum_replicate_ones 65537
  have hpseudo : pseudoTotal (jumboHost 1) (jumboHost 2) udpNumber 131074 = 23434 := by decide
  have htotal : total (jumboHost 1) (jumboHost 2) udpNumber (ones 65537) = 4294967296 + 23433 := by
    rw [total, hlength, hsegment, hpseudo]
  have hwraps := (checksum_eq_iff _ _ _ _).1 (h (jumboHost 1) (jumboHost 2) udpNumber (ones 65537))
  rw [htotal] at hwraps
  omega

end Segment

end Router
