import Router.Bytes

/-!
# Octets in place

A write keeps what stands in front of it and behind it (`take_patch`, `drop_patch`), and what it wrote is read back
(`take_drop_patch`). A read sees nothing but the octets it covers (`take_drop_congr`); a field is the `number` that
stands there, without the proof that it is inside. Place by place, a write gives its own octets or those that were there
(`getElem?_patch`), so writes at different places may come in either order (`patch_comm`).
-/

namespace Router.Bytes

variable {bytes other part first second : List UInt8} {offset width start stop n later : Nat}

/-! ## Writes -/

theorem length_take_of_le (h : offset ≤ bytes.length) : (bytes.take offset).length = offset := by
  rw [List.length_take]
  omega

theorem take_patch (h : offset ≤ bytes.length) (hn : n ≤ offset) : (patch bytes offset part).take n = bytes.take n := by
  have hl := length_take_of_le h
  rw [patch, List.append_assoc, List.take_append_of_le_length (by omega), List.take_take, Nat.min_eq_left hn]

theorem drop_patch (h : offset ≤ bytes.length) (hn : offset + part.length ≤ n) :
    (patch bytes offset part).drop n = bytes.drop n := by
  have hl : (bytes.take offset ++ part).length = offset + part.length := by
    rw [List.length_append, length_take_of_le h]
  rw [patch, List.drop_append, hl, List.drop_of_length_le (by omega), List.nil_append, List.drop_drop,
    Nat.add_sub_cancel' hn]

/-- What was written is read back. -/
theorem take_drop_patch (h : offset ≤ bytes.length) :
    ((patch bytes offset part).drop offset).take part.length = part := by
  rw [patch, List.append_assoc, List.drop_left' (length_take_of_le h), List.take_left]

/-- What was written in two parts is read back part by part: the first one. -/
theorem take_drop_patch_left (h : offset ≤ bytes.length) :
    ((patch bytes offset (first ++ second)).drop offset).take first.length = first := by
  rw [patch, List.append_assoc, List.drop_left' (length_take_of_le h), List.append_assoc, List.take_left]

/-- The second one. -/
theorem take_drop_patch_right (h : offset ≤ bytes.length) (hn : offset + first.length = n) :
    ((patch bytes offset (first ++ second)).drop n).take second.length = second := by
  rw [← hn, patch, List.append_assoc, ← List.drop_drop, List.drop_left' (length_take_of_le h), List.append_assoc,
    List.drop_left, List.take_left]

/-- Of two writes at one place the last one stays. -/
theorem patch_patch (h : offset + part.length ≤ bytes.length) (hl : other.length = part.length) :
    patch (patch bytes offset part) offset other = patch bytes offset other := by
  have hoffset : offset ≤ bytes.length := by omega
  rw [patch, take_patch hoffset (Nat.le_refl _), drop_patch hoffset (by omega)]
  rfl

/-- What is cut off behind a write takes no part in it. -/
theorem take_patch_behind (h : offset ≤ bytes.length) (hn : offset + part.length ≤ n) :
    (patch bytes offset part).take n = patch (bytes.take n) offset part := by
  have hfront : (bytes.take offset ++ part).length = offset + part.length := by
    rw [List.length_append, length_take_of_le h]
  rw [patch, patch, List.take_append, hfront, List.take_of_length_le (by omega), List.take_take,
    Nat.min_eq_left (by omega), List.drop_take]

theorem take_modify {f : List UInt8 → List UInt8} (h : start ≤ bytes.length) (hn : n ≤ start) :
    (modify bytes start stop f).take n = bytes.take n := by
  have hl := length_take_of_le h
  rw [modify, List.append_assoc, List.take_append_of_le_length (by omega), List.take_take, Nat.min_eq_left hn]

theorem drop_modify {f : List UInt8 → List UInt8} (h : start ≤ bytes.length) :
    (modify bytes start stop f).drop start = f ((bytes.take stop).drop start) ++ bytes.drop stop := by
  rw [modify, List.append_assoc, List.drop_left' (length_take_of_le h)]

/-! ## Reads -/

/-- Two lists with the same octets in front, read where they are the same. -/
theorem take_drop_congr (h : other.take n = bytes.take n) (hw : offset + width ≤ n) :
    (other.drop offset).take width = (bytes.drop offset).take width := by
  have inFront (l : List UInt8) : ((l.take n).drop offset).take width = (l.drop offset).take width := by
    rw [List.drop_take, List.take_take, Nat.min_eq_left (by omega)]
  rw [← inFront other, h, inFront bytes]

theorem drop_take_congr (h : other.drop start = bytes.drop start) :
    (other.take stop).drop start = (bytes.take stop).drop start := by
  rw [List.drop_take, List.drop_take, h]

/-- The number in the `width` octets from `offset` on, as far as they are there. -/
def number (bytes : List UInt8) (offset width : Nat) : Nat :=
  toNat ((bytes.drop offset).take width)

theorem field_eq_number (h : offset + width ≤ bytes.length) : field bytes offset width h = number bytes offset width :=
  rfl

theorem number_lt (h : offset + width ≤ bytes.length) : number bytes offset width < place width :=
  field_lt bytes offset width h

theorem number_congr (h : other.take n = bytes.take n) (hw : offset + width ≤ n) :
    number other offset width = number bytes offset width :=
  congrArg toNat (take_drop_congr h hw)

/-! ## Place by place -/

/-- What stands at a place after a write. -/
theorem getElem?_patch (h : offset + part.length ≤ bytes.length) (i : Nat) :
    (patch bytes offset part)[i]? = if offset ≤ i ∧ i < offset + part.length then part[i - offset]? else bytes[i]? := by
  have hfront : (bytes.take offset).length = offset := length_take_of_le (by omega)
  rw [patch, List.append_assoc, List.getElem?_append, hfront]
  by_cases hi : i < offset
  · rw [if_pos hi, List.getElem?_take_of_lt hi, if_neg (by omega)]
  · rw [if_neg hi, List.getElem?_append]
    by_cases hin : i - offset < part.length
    · rw [if_pos hin, if_pos (by omega)]
    · rw [if_neg hin, if_neg (by omega), List.getElem?_drop]
      congr 1
      omega

/-- Writes at different places may come in either order. -/
theorem patch_comm (h : offset + part.length ≤ later) (hp : later + other.length ≤ bytes.length) :
    patch (patch bytes offset part) later other = patch (patch bytes later other) offset part := by
  have hpart : (patch bytes offset part).length = bytes.length := length_patch _ _ _ (by omega)
  have hother : (patch bytes later other).length = bytes.length := length_patch _ _ _ hp
  refine List.ext_getElem? fun i => ?_
  rw [getElem?_patch (by omega), getElem?_patch (by omega), getElem?_patch (by omega), getElem?_patch (by omega)]
  by_cases hi : i < later
  · rw [if_neg (by omega), if_neg (c := later ≤ i ∧ _) (by omega)]
  · rw [if_neg (c := offset ≤ i ∧ _) (by omega), if_neg (c := offset ≤ i ∧ _) (by omega)]

/-- A write of what stands there changes nothing. -/
theorem patch_self (h : offset + width ≤ bytes.length) : patch bytes offset ((bytes.drop offset).take width) = bytes := by
  have hl : ((bytes.drop offset).take width).length = width := by
    rw [List.length_take, List.length_drop]
    omega
  refine List.ext_getElem? fun i => ?_
  rw [getElem?_patch (by omega), hl]
  split
  · rw [List.getElem?_take_of_lt (by omega), List.getElem?_drop]
    congr 1
    omega
  · rfl

/-- A write changes nothing exactly if what it writes stands there. -/
theorem patch_eq_self_iff (h : offset + part.length ≤ bytes.length) :
    patch bytes offset part = bytes ↔ (bytes.drop offset).take part.length = part := by
  constructor
  · intro he
    have hread : ((patch bytes offset part).drop offset).take part.length = part := take_drop_patch (by omega)
    rwa [he] at hread
  · intro he
    have hself : patch bytes offset ((bytes.drop offset).take part.length) = bytes := patch_self h
    rwa [he] at hself

/-- Two writes side by side are one. -/
theorem patch_append (h : offset + first.length + second.length ≤ bytes.length) :
    patch (patch bytes offset first) (offset + first.length) second = patch bytes offset (first ++ second) := by
  have hfirst : (patch bytes offset first).length = bytes.length := length_patch _ _ _ (by omega)
  refine List.ext_getElem? fun i => ?_
  rw [getElem?_patch (by omega), getElem?_patch (by omega),
    getElem?_patch (by rw [List.length_append]; omega), List.getElem?_append, List.length_append]
  grind

/-- A part that is the same place by place. -/
theorem slice_congr (h : ∀ i, start ≤ i → i < stop → other[i]? = bytes[i]?) :
    (other.take stop).drop start = (bytes.take stop).drop start := by
  refine List.ext_getElem? fun i => ?_
  rw [List.getElem?_drop, List.getElem?_drop, List.getElem?_take, List.getElem?_take]
  split
  · exact h _ (by omega) (by omega)
  · rfl

theorem drop_congr (h : ∀ i, start ≤ i → other[i]? = bytes[i]?) : other.drop start = bytes.drop start := by
  refine List.ext_getElem? fun i => ?_
  rw [List.getElem?_drop, List.getElem?_drop]
  exact h _ (by omega)

end Router.Bytes
