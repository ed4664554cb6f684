/-!
# Cutting text at separators

`fields` cuts at every separator, `cut?` at the first. Main statements: joining the fields gives the text back
(`join_fields`), and a cut loses nothing but the separator (`eq_of_cut?_eq_some`).
-/

namespace Router.Text

/-- The pieces of a text between separators; there is one more piece than separators. -/
def fields (sep : Char) : List Char → List (List Char)
  | [] => [[]]
  | c :: rest =>
    if c = sep then [] :: fields sep rest
    else match fields sep rest with
      | [] => [[c]]
      | piece :: pieces => (c :: piece) :: pieces

/-- Pieces with a separator between neighbours. -/
def join (sep : List Char) (pieces : List (List Char)) : List Char :=
  sep.intercalate pieces

theorem fields_ne_nil (sep : Char) (cs : List Char) : fields sep cs ≠ [] := by
  induction cs with
  | nil => simp [fields]
  | cons c rest ih =>
    rw [fields]
    split
    · simp
    · split <;> simp

theorem join_cons_cons (sep piece next : List Char) (pieces : List (List Char)) :
    join sep (piece :: next :: pieces) = piece ++ sep ++ join sep (next :: pieces) := by
  simp [join, List.intercalate]

theorem join_fields (sep : Char) (cs : List Char) : join [sep] (fields sep cs) = cs := by
  induction cs with
  | nil => rfl
  | cons c rest ih =>
    rw [fields]
    cases h : fields sep rest with
    | nil => exact absurd h (fields_ne_nil sep rest)
    | cons piece pieces =>
      rw [h] at ih
      split
      · rename_i hc
        rw [join_cons_cons, ih, hc]
        rfl
      · cases pieces with
        | nil => simpa [join, List.intercalate] using ih
        | cons next pieces =>
          rw [join_cons_cons] at ih
          simp only
          rw [join_cons_cons, List.cons_append, List.cons_append, ih]

theorem fields_of_not_mem {sep : Char} {cs : List Char} (h : sep ∉ cs) : fields sep cs = [cs] := by
  induction cs with
  | nil => rfl
  | cons c rest ih =>
    rw [List.mem_cons, not_or] at h
    rw [fields, if_neg (fun hc => h.1 hc.symm), ih h.2]

theorem fields_append_sep {sep : Char} {piece : List Char} (h : sep ∉ piece) (rest : List Char) :
    fields sep (piece ++ sep :: rest) = piece :: fields sep rest := by
  induction piece with
  | nil => simp [fields]
  | cons c piece ih =>
    rw [List.mem_cons, not_or] at h
    rw [List.cons_append, fields, if_neg (fun hc => h.1 hc.symm), ih h.2]

/-- Cutting undoes joining, for pieces without the separator. -/
theorem fields_join {sep : Char} {pieces : List (List Char)} (hne : pieces ≠ []) (h : ∀ p ∈ pieces, sep ∉ p) :
    fields sep (join [sep] pieces) = pieces := by
  induction pieces with
  | nil => exact absurd rfl hne
  | cons piece pieces ih =>
    cases pieces with
    | nil =>
      have := fields_of_not_mem (h piece (by simp))
      simpa [join, List.intercalate] using this
    | cons next pieces =>
      rw [join_cons_cons, List.append_assoc, List.singleton_append, fields_append_sep (h piece (by simp)),
        ih (by simp) fun p hp => h p (by simp_all)]

/-- What stands before and after the first separator, if there is one. -/
def cut? (sep : Char) : List Char → Option (List Char × List Char)
  | [] => none
  | c :: rest => if c = sep then some ([], rest) else (cut? sep rest).map fun (l, r) => (c :: l, r)

theorem eq_of_cut?_eq_some {sep : Char} {cs l r : List Char} (h : cut? sep cs = some (l, r)) :
    cs = l ++ sep :: r ∧ sep ∉ l := by
  induction cs generalizing l with
  | nil => simp [cut?] at h
  | cons c rest ih =>
    rw [cut?] at h
    split at h
    · rename_i hc
      simp only [Option.some.injEq, Prod.mk.injEq] at h
      simp [← h.1, h.2, hc]
    · rename_i hc
      obtain ⟨⟨l', r'⟩, hcut, he⟩ := Option.map_eq_some_iff.1 h
      simp only [Prod.mk.injEq] at he
      obtain ⟨hr, hl⟩ := ih (he.2 ▸ hcut)
      rw [← he.1]
      exact ⟨by rw [hr, List.cons_append], by simp [hl, Ne.symm hc]⟩

theorem cut?_append {sep : Char} {l : List Char} (h : sep ∉ l) (r : List Char) :
    cut? sep (l ++ sep :: r) = some (l, r) := by
  induction l with
  | nil => simp [cut?]
  | cons c l ih =>
    rw [List.mem_cons, not_or] at h
    rw [List.cons_append, cut?, if_neg (Ne.symm h.1), ih h.2]
    rfl

theorem cut?_eq_none_iff {sep : Char} {cs : List Char} : cut? sep cs = none ↔ sep ∉ cs := by
  induction cs with
  | nil => simp [cut?]
  | cons c rest ih =>
    rw [cut?]
    split
    · rename_i hc; simp [hc]
    · rename_i hc; simp [ih, Ne.symm hc]

end Router.Text
