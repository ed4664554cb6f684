import Mathlib.Data.Nat.ModEq
import Router.Proofs.Header.Checksum

/-!
# Folding, parts and verification

A sum is folded by adding what stands above its low 16 bits to them, again and again until nothing stands there
(`Folds`). A round stays within 32 bits (`low_add_high_lt`), makes the sum smaller (`carry_lt`) and keeps what it folds
to (`fold_carry`), so the rounds end, and with the folded sum (`folds_fold`).

- A sum folds to the one word that is congruent to it modulo 65535 and zero only for zero (`eq_fold_iff`).
- Octets may be added up in parts that are cut at an even place (`addWords_append`).
- Octets that hold their checksum in place of zeros have the checksum zero (`of_stored`).

Main statement: the three together (`folded_and_verified`).
-/

namespace Router.Checksum

variable {sum : UInt32} {word : UInt16}

/-! ## Rounds -/

/-- The rounds that fold a sum. As long as something stands above the low 16 bits, it is added to them, within 32 bits;
then the low 16 bits are the result. -/
inductive Folds : UInt32 → UInt16 → Prop
  | done {sum : UInt32} (hlow : sum >>> 16 = 0) : Folds sum sum.toUInt16
  | round {sum : UInt32} {word : UInt16} (hhigh : sum >>> 16 ≠ 0)
      (hroom : (sum &&& 0xFFFF).toNat + (sum >>> 16).toNat < UInt32.size) (hrest : Folds (carry sum) word) :
      Folds sum word

theorem shiftRight_eq_zero_iff : sum >>> 16 = 0 ↔ sum.toNat < 65536 := by
  rw [← UInt32.toNat_inj, toNat_high, UInt32.toNat_zero]
  omega

/-- A round does not overflow. -/
theorem low_add_high_lt (sum : UInt32) : (sum &&& 0xFFFF).toNat + (sum >>> 16).toNat < UInt32.size := by
  have hlt := sum.toNat_lt
  rw [toNat_low, toNat_high, UInt32.size]
  omega

/-- A round makes a sum smaller, as long as there is something to add. -/
theorem carry_lt (h : 65536 ≤ sum.toNat) : (carry sum).toNat < sum.toNat := by
  rw [toNat_carry]
  omega

/-- A round keeps what a sum folds to. -/
theorem fold_carry (sum : UInt32) : fold (carry sum) = fold sum := by
  rw [← UInt16.toNat_inj, toNat_fold, toNat_fold, toNat_carry]
  split <;> split <;> omega

theorem fold_of_lt (h : sum.toNat < 65536) : fold sum = sum.toUInt16 := by
  rw [← UInt16.toNat_inj, toNat_fold, UInt32.toNat_toUInt16]
  split <;> omega

/-- The rounds of every sum end, and with the folded sum. -/
theorem folds_fold (sum : UInt32) : Folds sum (fold sum) := by
  induction h : sum.toNat using Nat.strongRecOn generalizing sum with
  | ind n ih =>
    subst h
    rcases Nat.lt_or_ge sum.toNat 65536 with hlow | hhigh
    · rw [fold_of_lt hlow]
      exact .done (shiftRight_eq_zero_iff.2 hlow)
    · rw [← fold_carry]
      have hmore : sum >>> 16 ≠ 0 := fun hzero => absurd (shiftRight_eq_zero_iff.1 hzero) (by omega)
      exact .round hmore (low_add_high_lt sum) (ih _ (carry_lt hhigh) _ rfl)

/-- The rounds end with nothing else. -/
theorem Folds.eq_fold (h : Folds sum word) : word = fold sum := by
  induction h with
  | done hlow => exact (fold_of_lt (shiftRight_eq_zero_iff.1 hlow)).symm
  | round _ _ _ ih => rw [ih, fold_carry]

/-- A sum folds to the one word that is congruent to it modulo 65535 and zero only for zero. -/
theorem eq_fold_iff : word = fold sum ↔ word.toNat ≡ sum.toNat [MOD 65535] ∧ (word = 0 ↔ sum = 0) := by
  have hword := word.toNat_lt
  rw [← UInt16.toNat_inj, toNat_fold, Nat.ModEq, ← UInt16.toNat_inj, ← UInt32.toNat_inj, UInt16.toNat_zero,
    UInt32.toNat_zero]
  split <;> omega

/-! ## Parts -/

/-- Octets may be added up in parts that are cut at an even place. -/
theorem addWords_append {front : List UInt8} (h : front.length % 2 = 0) (back : List UInt8) (acc : UInt32) :
    addWords (front ++ back) acc = addWords back (addWords front acc) := by
  fun_induction addWords front acc with
  | case1 acc => rfl
  | case2 last acc => simp at h
  | case3 a b rest acc ih =>
    have heven : rest.length % 2 = 0 := by
      simp only [List.length_cons] at h
      omega
    exact ih heven

/-! ## Verification -/

/-- Octets that hold their checksum where they held zeros have the checksum zero. Up to the length that is given the
accumulator does not wrap. -/
theorem of_stored {bytes : List UInt8} {offset : Nat} (hlength : bytes.length < 131072) (heven : offset % 2 = 0)
    (hzero : (bytes.drop offset).take 2 = [0, 0]) : of (Bytes.patch bytes offset (octets (of bytes))) = 0 := by
  have hroom : offset + 2 ≤ bytes.length := by
    have htwo := congrArg List.length hzero
    simp only [List.length_take, List.length_drop, List.length_cons, List.length_nil] at htwo
    omega
  have hcleared : Bytes.patch bytes offset [0, 0] = bytes := (Bytes.patch_eq_self_iff hroom).2 hzero
  refine complement_of_written heven hroom (.inl ?_) ?_
  · rw [hcleared]
    rfl
  · rw [UInt32.toNat_zero]
    omega

/-- Folding a sum ends without overflow, in the one word that is congruent to the sum modulo 65535 and zero only for
zero; sums may be taken in parts that are cut at an even place; and octets that hold their checksum in place of zeros
have the checksum zero. -/
theorem folded_and_verified :
    (∀ sum : UInt32, Folds sum (fold sum) ∧ (∀ word, Folds sum word → word = fold sum) ∧
      ∀ word, word = fold sum ↔ word.toNat ≡ sum.toNat [MOD 65535] ∧ (word = 0 ↔ sum = 0)) ∧
    (∀ (front back : List UInt8) (acc : UInt32), front.length % 2 = 0 →
      addWords (front ++ back) acc = addWords back (addWords front acc)) ∧
    ∀ (bytes : List UInt8) (offset : Nat), bytes.length < 131072 → offset % 2 = 0 →
      (bytes.drop offset).take 2 = [0, 0] → of (Bytes.patch bytes offset (octets (of bytes))) = 0 := by
  refine ⟨fun sum => ⟨folds_fold sum, fun word h => h.eq_fold, fun word => eq_fold_iff⟩, ?_, ?_⟩
  · intro front back acc heven
    exact addWords_append heven back acc
  · intro bytes offset hlength heven hzero
    exact of_stored hlength heven hzero

/-- A header and one octet behind it, with zeros in place of the checksum. -/
def unstamped : List UInt8 :=
  [0x45, 0, 0, 21, 0, 0, 0x40, 0, 64, 17, 0, 0, 10, 1, 2, 3, 8, 8, 8, 8, 0xFF]

/-- The checksum of octets of odd length, and a sum that takes two rounds to all ones, which stand for zero. -/
theorem header_verified :
    Folds 0xFFFFFFFF 0xFFFF ∧ (0xFFFF : UInt16).toNat ≡ (0xFFFFFFFF : UInt32).toNat [MOD 65535] ∧
      (unstamped.take 20).length % 2 = 0 ∧ unstamped.length < 131072 ∧ (unstamped.drop 10).take 2 = [0, 0] ∧
      addWords unstamped 0 = addWords [0xFF] (addWords (unstamped.take 20) 0) ∧ of unstamped = 0x1FC4 ∧
      of (Bytes.patch unstamped 10 [0x1F, 0xC4]) = 0 := by
  obtain ⟨hfolds, hparts, hstored⟩ := folded_and_verified
  have hones : fold 0xFFFFFFFF = 0xFFFF := by decide
  have hsum : of unstamped = 0x1FC4 := by decide
  have hword : octets 0x1FC4 = [0x1F, 0xC4] := by decide
  refine ⟨hones ▸ (hfolds 0xFFFFFFFF).1, (((hfolds 0xFFFFFFFF).2.2 0xFFFF).1 hones.symm).1, rfl, by decide, rfl,
    hparts (unstamped.take 20) [0xFF] 0 rfl, hsum, ?_⟩
  have hzero := hstored unstamped 10 (by decide) rfl rfl
  rwa [hsum, hword] at hzero

end Router.Checksum
