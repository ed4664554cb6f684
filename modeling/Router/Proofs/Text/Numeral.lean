import Mathlib.Data.List.Basic
import Router.Text.Decimal
import Router.Text.Fields
import Router.Text.Notation

/-!
# Written numbers

What `Nat.toDigits` writes in a radix up to 16 are digits of that radix (`Radix.isDigit_of_mem_toDigits`) that stand
for the number (`Radix.value_toDigits`), so it reads back (`Radix.read?_toDigits`). A decimal number other than zero
does not start with a zero (`Decimal.head?_chars`), and one within a bound reads back (`Decimal.read?_chars`).
-/

namespace Router.Text

namespace Radix

variable {radix : Nat}

theorem digit?_digitChar (hradix : radix ≤ 16) {d : Nat} (hd : d < radix) :
    digit? radix (Nat.digitChar d) = some d := by
  have hvalue : ∀ d < 16, digit? 16 (Nat.digitChar d) = some d := by decide
  have hsixteen := hvalue d (Nat.lt_of_lt_of_le hd hradix)
  rw [digit?, Option.filter_eq_some_iff] at hsixteen ⊢
  exact ⟨hsixteen.1, decide_eq_true hd⟩

theorem value_append_singleton (cs : List Char) (c : Char) :
    value radix (cs ++ [c]) = value radix cs * radix + (digit? radix c).getD 0 := by
  simp [value]

theorem value_toDigits (hlow : 1 < radix) (hradix : radix ≤ 16) (n : Nat) :
    value radix (Nat.toDigits radix n) = n := by
  induction n using Nat.strongRecOn with
  | ind n ih =>
    rcases Nat.lt_or_ge n radix with h | h
    · rw [Nat.toDigits_of_lt_base h]
      simp [value, digit?_digitChar hradix h]
    · have hless : n / radix < n := Nat.div_lt_self (by omega) hlow
      rw [Nat.toDigits_of_base_le hlow h, value_append_singleton, ih _ hless,
        digit?_digitChar hradix (Nat.mod_lt _ (by omega)), Option.getD_some]
      exact Nat.div_add_mod' n radix

theorem isDigit_of_mem_toDigits (hlow : 1 < radix) (hradix : radix ≤ 16) (n : Nat) :
    ∀ c ∈ Nat.toDigits radix n, isDigit radix c = true := by
  have hdigit : ∀ d < radix, isDigit radix (Nat.digitChar d) = true := fun d hd => by
    rw [isDigit, digit?_digitChar hradix hd, Option.isSome_some]
  induction n using Nat.strongRecOn with
  | ind n ih =>
    rcases Nat.lt_or_ge n radix with h | h
    · rw [Nat.toDigits_of_lt_base h]
      exact List.forall_mem_singleton.2 (hdigit n h)
    · have hless : n / radix < n := Nat.div_lt_self (by omega) hlow
      rw [Nat.toDigits_of_base_le hlow h, List.forall_mem_append]
      exact ⟨ih _ hless, List.forall_mem_singleton.2 (hdigit _ (Nat.mod_lt _ (by omega)))⟩

/-- Reading undoes writing. -/
theorem read?_toDigits (hlow : 1 < radix) (hradix : radix ≤ 16) (n : Nat) :
    read? radix (Nat.toDigits radix n) = some n := by
  have hdigits := List.all_eq_true.2 (isDigit_of_mem_toDigits hlow hradix n)
  rw [read?, if_pos ⟨Nat.toDigits_ne_nil, hdigits⟩, value_toDigits hlow hradix]

end Radix

namespace Decimal

theorem isDigit_of_mem_chars (n : Nat) : ∀ c ∈ chars n, c.isDigit = true :=
  List.all_eq_true.1 (all_isDigit_chars n)

/-- A separator that is no digit stands in no number. -/
theorem not_mem_chars {c : Char} (h : c.isDigit = false) (n : Nat) : c ∉ chars n := by
  intro hc
  rw [isDigit_of_mem_chars n c hc] at h
  cases h

theorem head?_chars {n : Nat} (h : (chars n).head? = some '0') : n = 0 := by
  induction n using Nat.strongRecOn with
  | ind n ih =>
    rcases Nat.lt_or_ge n 10 with hn | hn
    · have hzero : ∀ d < 10, (Nat.toDigits 10 d).head? = some '0' → d = 0 := by decide
      exact hzero n hn h
    · have hhead : (chars n).head? = (chars (n / 10)).head? := by
        rw [chars, Nat.toDigits_of_base_le (by decide) hn, List.head?_append_of_ne_nil _ Nat.toDigits_ne_nil, chars]
      have hnone := ih (n / 10) (by omega) (hhead ▸ h)
      omega

/-- Only the number zero starts with a zero, and that is one digit. -/
theorem length_chars_of_head? {n : Nat} (h : (chars n).head? = some '0') : (chars n).length = 1 := by
  rw [head?_chars h]
  rfl

theorem digits?_chars (n : Nat) : digits? (chars n) = some n := by
  rw [digits?, if_pos ⟨chars_ne_nil n, all_isDigit_chars n⟩, value_chars]

theorem read?_chars {bound n : Nat} (h : n ≤ bound) : read? bound (chars n) = some n := by
  rw [← toList_repr]
  exact read?_repr h

end Decimal

end Router.Text
