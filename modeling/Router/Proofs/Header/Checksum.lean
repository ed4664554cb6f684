import Router.Header.Checksum
import Router.Proofs.Bytes

/-!
# One's complement sums

- the accumulator holds the sum of the words as a number, modulo `2 ^ 32` (`toNat_addWords`), and sums of words add up
  where they are cut at an even place (`sum_append`, `sum_patch`);
- the end-around carries leave the one value in 16 bits that is congruent modulo 65535 and zero only for zero
  (`toNat_fold`);
- main statement: whoever adds the complement of a sum to it has a sum whose complement is zero, and the all ones that
  may stand for it do as well (`complement_of_stored`).
-/

namespace Router.Checksum

/-! ## Sums of words -/

/-- The sum of the 16-bit words of octets, an odd last octet padded with zero. -/
def sum : List UInt8 → Nat
  | [] => 0
  | [last] => last.toNat * 256
  | a :: b :: rest => (a.toNat * 256 + b.toNat) + sum rest

theorem toNat_word (a b : UInt8) : (a.toUInt32 * 256 + b.toUInt32).toNat = a.toNat * 256 + b.toNat := by
  have ha := a.toNat_lt
  have hb := b.toNat_lt
  simp only [UInt32.toNat_add, UInt32.toNat_mul, UInt8.toNat_toUInt32, UInt32.reduceToNat]
  omega

theorem toNat_lastWord (a : UInt8) : (a.toUInt32 * 256).toNat = a.toNat * 256 := by
  have ha := a.toNat_lt
  simp only [UInt32.toNat_mul, UInt8.toNat_toUInt32, UInt32.reduceToNat]
  omega

/-- The accumulator counts modulo `2 ^ 32`. -/
theorem toNat_addWords (bytes : List UInt8) (acc : UInt32) :
    (addWords bytes acc).toNat = (acc.toNat + sum bytes) % 4294967296 := by
  fun_induction addWords bytes acc with
  | case1 acc =>
    have hacc := acc.toNat_lt
    rw [sum]
    omega
  | case2 acc last =>
    rw [sum, UInt32.toNat_add, toNat_lastWord]
  | case3 acc a b rest ih =>
    rw [ih, sum, UInt32.toNat_add, toNat_word]
    omega

theorem sum_le (bytes : List UInt8) : sum bytes ≤ 65535 * ((bytes.length + 1) / 2) := by
  fun_induction sum bytes with
  | case1 => exact Nat.zero_le _
  | case2 last =>
    have := last.toNat_lt
    simp only [List.length_singleton]
    omega
  | case3 a b rest ih =>
    have ha := a.toNat_lt
    have hb := b.toNat_lt
    simp only [List.length_cons]
    omega

/-- What is cut at an even place is summed up part by part. -/
theorem sum_append {front : List UInt8} (h : front.length % 2 = 0) (back : List UInt8) :
    sum (front ++ back) = sum front + sum back := by
  fun_induction sum front with
  | case1 => exact (Nat.zero_add _).symm
  | case2 last => simp at h
  | case3 a b rest ih =>
    have heven : rest.length % 2 = 0 := by
      simp only [List.length_cons] at h
      omega
    rw [List.cons_append, List.cons_append, sum, ih heven]
    omega

theorem sum_pair : ∀ {word : List UInt8}, word.length = 2 → sum word = Bytes.toNat word
  | [a, b], _ => by simp [sum, Bytes.toNat]

theorem length_octets (word : UInt16) : (octets word).length = 2 :=
  Bytes.length_ofNat 2 word.toNat

theorem toNat_octets (word : UInt16) : Bytes.toNat (octets word) = word.toNat := by
  have h : word.toNat < Bytes.place 2 := word.toNat_lt
  rw [octets, Bytes.toNat_ofNat, Nat.mod_eq_of_lt h]

theorem sum_octets (word : UInt16) : sum (octets word) = word.toNat := by
  rw [sum_pair (length_octets word), toNat_octets]

/-- A word that is written at an even place counts beside what stands around it. -/
theorem sum_patch {bytes word : List UInt8} {offset : Nat} (heven : offset % 2 = 0) (hword : word.length = 2)
    (h : offset + 2 ≤ bytes.length) :
    sum (Bytes.patch bytes offset word) = sum (bytes.take offset) + sum word + sum (bytes.drop (offset + 2)) := by
  have hfront : (bytes.take offset).length = offset := Bytes.length_take_of_le (by omega)
  have hwritten : (bytes.take offset ++ word).length % 2 = 0 := by
    rw [List.length_append, hfront, hword]
    omega
  rw [Bytes.patch, hword, sum_append hwritten, sum_append (by rw [hfront]; exact heven)]

/-- In place of a cleared word the one that is written counts in full. -/
theorem sum_patch_octets {bytes : List UInt8} {offset : Nat} (heven : offset % 2 = 0) (h : offset + 2 ≤ bytes.length)
    (word : UInt16) :
    sum (Bytes.patch bytes offset (octets word)) = sum (Bytes.patch bytes offset [0, 0]) + word.toNat := by
  have hcleared : sum [0, 0] = 0 := rfl
  rw [sum_patch heven (length_octets word) h, sum_patch heven rfl h, sum_octets, hcleared]
  omega

/-! ## Carries -/

/-- A number folds to its residue modulo 65535, to 65535 itself instead of zero unless it is zero. -/
theorem toNat_fold (total : UInt32) :
    (fold total).toNat = if total.toNat = 0 then 0 else (total.toNat - 1) % 65535 + 1 := by
  have hlt := total.toNat_lt
  have hsmall := carry_carry_lt total
  rw [fold, UInt32.toNat_toUInt16, Nat.mod_eq_of_lt hsmall, toNat_carry, toNat_carry]
  split <;> omega

theorem toNat_complement (word : UInt16) : (~~~ word).toNat = 65535 - word.toNat := by
  rw [UInt16.toNat_not]
  rfl

/-- The complement of a sum is zero exactly if the sum is a multiple of 65535 and not zero. -/
theorem complement_eq_zero_iff (total : UInt32) :
    ~~~ fold total = 0 ↔ 0 < total.toNat ∧ total.toNat % 65535 = 0 := by
  have hfold := toNat_fold total
  have hcomplement := toNat_complement (fold total)
  rw [← UInt16.toNat_inj, hcomplement, hfold, UInt16.toNat_zero]
  split <;> omega

/-- A word that may be stored for a sum: its complement, or all ones if the complement is zero. -/
def Stores (word : UInt16) (total : UInt32) : Prop :=
  word = ~~~ fold total ∨ (word = 0xFFFF ∧ ~~~ fold total = 0)

/-- With the stored word counted in, the complement of the sum is zero. -/
theorem complement_of_stored {word : UInt16} {total stored : UInt32} (hword : Stores word total)
    (h : stored.toNat = total.toNat + word.toNat) : ~~~ fold stored = 0 := by
  rw [complement_eq_zero_iff, h]
  obtain rfl | ⟨rfl, hzero⟩ := hword
  · have hfold := toNat_fold total
    rw [toNat_complement, hfold]
    split <;> omega
  · obtain ⟨hpositive, hmultiple⟩ := (complement_eq_zero_iff total).1 hzero
    have hones : (0xFFFF : UInt16).toNat = 65535 := rfl
    omega

/-- The same for octets: with the checksum written at a place that counted as zero, the checksum of all is zero. It is
assumed that the accumulator does not wrap. -/
theorem complement_of_written {bytes : List UInt8} {offset : Nat} {word : UInt16} {acc : UInt32}
    (heven : offset % 2 = 0) (h : offset + 2 ≤ bytes.length)
    (hword : Stores word (addWords (Bytes.patch bytes offset [0, 0]) acc))
    (hroom : acc.toNat + 65535 * ((bytes.length + 1) / 2) + 65535 < 4294967296) :
    ~~~ fold (addWords (Bytes.patch bytes offset (octets word)) acc) = 0 := by
  have hsum := sum_le (Bytes.patch bytes offset [0, 0])
  rw [Bytes.length_patch _ _ _ h] at hsum
  have hlt := word.toNat_lt
  refine complement_of_stored hword ?_
  rw [toNat_addWords, toNat_addWords, sum_patch_octets heven h]
  omega

end Router.Checksum
