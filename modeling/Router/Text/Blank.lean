/-!
# Blank characters

The characters that Unicode calls white space, and cutting them off the ends of a text. Main statements: every
character that core calls white space is blank (`isBlank_of_isWhitespace`), and a trimmed text neither starts nor ends
with a blank (`head?_trim`, `getLast?_trim`).
-/

namespace Router.Text

/-- The Unicode property White_Space. -/
def isBlank (c : Char) : Bool :=
  let n := c.toNat
  (9 ≤ n && n ≤ 13) || n == 32 || n == 0x85 || n == 0xA0 || n == 0x1680 || (0x2000 ≤ n && n ≤ 0x200A)
    || n == 0x2028 || n == 0x2029 || n == 0x202F || n == 0x205F || n == 0x3000

theorem isBlank_of_isWhitespace {c : Char} (h : c.isWhitespace = true) : isBlank c = true := by
  simp only [Char.isWhitespace, Bool.or_eq_true, decide_eq_true_eq] at h
  rcases h with ((rfl | rfl) | rfl) | rfl <;> decide

/-- A text without the blanks at its two ends. -/
def trim (cs : List Char) : List Char :=
  ((cs.dropWhile isBlank).reverse.dropWhile isBlank).reverse

theorem head?_dropWhile_isBlank (cs : List Char) : ∀ c ∈ (cs.dropWhile isBlank).head?, isBlank c = false := by
  intro c hc
  have := List.head?_dropWhile_not isBlank cs
  rw [Option.mem_def.1 hc] at this
  simpa using this

theorem getLast?_trim (cs : List Char) : ∀ c ∈ (trim cs).getLast?, isBlank c = false := by
  intro c hc
  rw [trim, List.getLast?_reverse] at hc
  exact head?_dropWhile_isBlank _ c hc

theorem head?_trim (cs : List Char) : ∀ c ∈ (trim cs).head?, isBlank c = false := by
  intro c hc
  refine head?_dropWhile_isBlank cs c ?_
  rw [trim, List.head?_reverse] at hc
  have hs := (List.dropWhile_suffix isBlank (l := (cs.dropWhile isBlank).reverse))
  obtain ⟨t, ht⟩ := hs
  have hl : (cs.dropWhile isBlank).reverse.getLast? = some c := by
    rw [← ht, List.getLast?_append, hc, Option.some_or]
  rwa [List.getLast?_reverse] at hl

/-- `String` form of `trim`. -/
def trimmed (s : String) : String :=
  String.ofList (trim s.toList)

end Router.Text
