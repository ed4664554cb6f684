/-!
# Decimal numbers with a bound

An optional plus sign, then at least one digit; leading zeros are allowed, and a number above the bound is no number.
Main statement: what `Nat.repr` writes reads back, if it is within the bound (`read?_repr`).
-/

namespace Router.Text.Decimal

/-- The value of an ASCII digit. -/
def digitValue (c : Char) : Nat :=
  c.toNat - '0'.toNat

/-- The number that digits stand for. -/
def value (cs : List Char) : Nat :=
  cs.foldl (fun acc c => acc * 10 + digitValue c) 0

/-- A text of digits only, and at least one, as a number. -/
def digits? (cs : List Char) : Option Nat :=
  if cs ≠ [] ∧ cs.all Char.isDigit then some (value cs) else none

/-- A text without a leading plus sign. -/
def unsigned : List Char → List Char
  | '+' :: rest => rest
  | cs => cs

/-- The number not above `bound` that a text stands for. -/
def read? (bound : Nat) (cs : List Char) : Option Nat :=
  (digits? (unsigned cs)).filter (· ≤ bound)

/-- The digits of a number in base ten. -/
def chars (n : Nat) : List Char :=
  Nat.toDigits 10 n

theorem toList_repr (n : Nat) : n.repr.toList = chars n := by
  simp [Nat.repr, chars]

theorem value_append_singleton (cs : List Char) (c : Char) : value (cs ++ [c]) = value cs * 10 + digitValue c := by
  simp [value]

theorem digitValue_digitChar {d : Nat} (h : d < 10) : digitValue (Nat.digitChar d) = d := by
  have := Nat.toNat_digitChar_of_lt_ten h
  simp only [digitValue, this]
  have : '0'.toNat = 48 := rfl
  omega

theorem value_chars (n : Nat) : value (chars n) = n := by
  induction n using Nat.strongRecOn with
  | ind n ih =>
    rcases Nat.lt_or_ge n 10 with h | h
    · rw [chars, Nat.toDigits_of_lt_base h]
      simp [value, digitValue_digitChar h]
    · rw [chars, Nat.toDigits_of_base_le (by decide) h, value_append_singleton]
      have := ih (n / 10) (by omega)
      rw [chars] at this
      rw [this, digitValue_digitChar (Nat.mod_lt _ (by decide))]
      omega

theorem all_isDigit_chars (n : Nat) : (chars n).all Char.isDigit = true := by
  rw [List.all_eq_true]
  intro c hc
  exact Nat.isDigit_of_mem_toDigits (by decide) (by decide) hc

theorem chars_ne_nil (n : Nat) : chars n ≠ [] := by
  intro h
  have := @Nat.length_toDigits_pos 10 n
  rw [chars] at h
  simp [h] at this

theorem unsigned_chars (n : Nat) : unsigned (chars n) = chars n := by
  unfold unsigned
  split
  · rename_i rest h
    have := all_isDigit_chars n
    rw [h] at this
    simp at this
  · rfl

/-- Reading undoes writing. -/
theorem read?_repr {bound n : Nat} (h : n ≤ bound) : read? bound n.repr.toList = some n := by
  rw [toList_repr, read?, unsigned_chars, digits?, if_pos ⟨chars_ne_nil n, all_isDigit_chars n⟩, value_chars]
  simp [h]

end Router.Text.Decimal
