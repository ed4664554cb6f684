import Router.Network
import Router.PortRange
import Router.Proofs.Address.Text

/-!
# Networks and port ranges read back

What is written for a network or a port range is read as that network (`Network.ofString?_toString`) or that range
(`PortRange.ofString?_toString`), the latter if its first port is not above its last one.
-/

namespace Router

open Text

namespace Text

theorem isBlank_of_isDigit {c : Char} (h : c.isDigit = true) : isBlank c = false := by
  have hdigit : 48 ≤ c.toNat ∧ c.toNat ≤ 57 := by simpa [Char.isDigit, UInt32.le_iff_toNat_le] using h
  simp only [isBlank, Bool.or_eq_false_iff, Bool.and_eq_false_iff, decide_eq_false_iff_not, beq_eq_false_iff_ne]
  omega

theorem trim_of_forall {cs : List Char} (h : ∀ c ∈ cs, isBlank c = false) : trim cs = cs := by
  have hdrop : ∀ cs : List Char, (∀ c ∈ cs, isBlank c = false) → cs.dropWhile isBlank = cs := by
    intro cs hcs
    refine List.dropWhile_eq_self_iff.2 fun hpos => ?_
    rw [hcs _ (List.getElem_mem hpos)]
    exact Bool.false_ne_true
  rw [trim, hdrop cs h, hdrop cs.reverse fun c hc => h c (List.mem_reverse.1 hc), List.reverse_reverse]

end Text

/-! ## Networks -/

namespace Block

variable {w : Nat}

theorem around_base (b : Block w) : around b.base b.length = b := by
  have hlength : min b.length w = b.length := Nat.min_eq_left b.length_le
  have hbase : b.base &&& leadingOnes w (min b.length w) = b.base := by rw [hlength, b.base_masked]
  cases b
  simp only [around, Block.mk.injEq] at hbase hlength ⊢
  exact ⟨hbase, hlength⟩

end Block

namespace Network

theorem around_base (n : Network) : around n.base n.length = n := by
  cases n with
  | v4 block => exact congrArg v4 block.around_base
  | v6 block => exact congrArg v6 block.around_base

theorem length_le_maxLength (n : Network) : n.length ≤ maxLength n.base := by
  cases n with
  | v4 block => exact block.length_le
  | v6 block => exact block.length_le

theorem maxLength_le (a : Address) : maxLength a ≤ 128 := by
  rw [maxLength]
  split <;> decide

theorem slash_not_mem_chars (a : Address) : '/' ∉ a.chars := by
  intro hslash
  exact absurd (Address.isTextChar_of_mem_chars a '/' hslash) (by decide)

theorem read?_chars (n : Network) : read? n.chars = some n := by
  have hle := n.length_le_maxLength
  have hlength : Decimal.read? 255 (Decimal.chars n.length) = some n.length :=
    Decimal.read?_chars (by have := maxLength_le n.base; omega)
  rw [read?, chars, cut?_append (slash_not_mem_chars n.base)]
  simp only [Address.read?_chars, hlength, Option.bind_eq_bind, Option.bind_some]
  rw [if_neg (Nat.not_lt.2 hle), Option.pure_def, around_base]

/-- What is written for a network is read as that network. -/
theorem ofString?_toString (n : Network) : ofString? (toString n) = some n := by
  have htext : (toString n).toList = n.chars := String.toList_ofList
  rw [ofString?, htext, read?_chars]

end Network

/-! ## Port ranges -/

namespace PortRange

theorem port?_chars (port : UInt16) : port? (Decimal.chars port.toNat) = some port := by
  have htrim : trim (Decimal.chars port.toNat) = Decimal.chars port.toNat :=
    trim_of_forall fun c hc => isBlank_of_isDigit (Decimal.isDigit_of_mem_chars _ c hc)
  rw [port?, htrim, Decimal.read?_chars (Nat.le_of_lt_succ port.toNat_lt), Option.map_some, UInt16.ofNat_toNat]

theorem read?_chars {r : PortRange} (h : r.first ≤ r.last) : read? r.chars = some r := by
  have hhyphen : ∀ n, '-' ∉ Decimal.chars n := Decimal.not_mem_chars (by decide)
  by_cases hone : r.first = r.last
  · rw [read?, chars, if_pos hone, cut?_eq_none_iff.2 (hhyphen _)]
    dsimp only
    rw [port?_chars, Option.map_some, single]
    exact congrArg (fun last => some (PortRange.mk r.first last)) hone
  · rw [read?, chars, if_neg hone, cut?_append (hhyphen _)]
    simp only [port?_chars, Option.bind_eq_bind, Option.bind_some]
    rw [if_neg (UInt16.not_lt.2 h), Option.pure_def]

/-- Every range that is read has a port. -/
theorem first_le_last_of_read? {cs : List Char} {r : PortRange} (h : read? cs = some r) : r.first ≤ r.last := by
  rw [read?] at h
  split at h
  · obtain ⟨port, -, rfl⟩ := Option.map_eq_some_iff.1 h
    exact UInt16.le_refl port
  · obtain ⟨first, -, hfirst⟩ := Option.bind_eq_some_iff.1 h
    obtain ⟨last, -, hlast⟩ := Option.bind_eq_some_iff.1 hfirst
    split at hlast
    · cases hlast
    · rename_i hless
      cases hlast
      exact UInt16.not_lt.1 hless

/-- What is written for a port range is read as that range. -/
theorem ofString?_toString {r : PortRange} (h : r.first ≤ r.last) : ofString? (toString r) = some r := by
  have htext : (toString r).toList = r.chars := String.toList_ofList
  rw [ofString?, htext, read?_chars h]

end PortRange

end Router
