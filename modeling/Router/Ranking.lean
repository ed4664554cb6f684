/-!
# Stable ranking

`rank before xs` orders a list so that no element strictly precedes one in front of it; elements of equal rank keep
their order. Main statements: a ranked list is a permutation of the list (`rank_perm`), and ranking a list that is one
longer inserts the last element (`rank_append_singleton`).
-/

namespace Router.Ranking

variable {α : Type}

/-- Puts an element in front of the first one that it strictly precedes. -/
def insert (before : α → α → Bool) (a : α) : List α → List α
  | [] => [a]
  | b :: rest => if before a b then a :: b :: rest else b :: insert before a rest

/-- The stable order of a list. -/
def rank (before : α → α → Bool) (xs : List α) : List α :=
  xs.foldl (fun ranked a => insert before a ranked) []

theorem insert_perm (before : α → α → Bool) (a : α) (xs : List α) : (insert before a xs).Perm (a :: xs) := by
  induction xs with
  | nil => exact .refl _
  | cons b rest ih =>
    rw [insert]
    split
    · exact .refl _
    · exact (ih.cons b).trans (.swap a b rest)

theorem foldl_insert_perm (before : α → α → Bool) (xs ranked : List α) :
    (xs.foldl (fun ranked a => insert before a ranked) ranked).Perm (ranked ++ xs) := by
  induction xs generalizing ranked with
  | nil => simp
  | cons a xs ih =>
    refine (ih (insert before a ranked)).trans ?_
    exact ((insert_perm before a ranked).append_right xs).trans List.perm_middle.symm

theorem rank_perm (before : α → α → Bool) (xs : List α) : (rank before xs).Perm xs :=
  foldl_insert_perm before xs []

theorem rank_append_singleton (before : α → α → Bool) (xs : List α) (a : α) :
    rank before (xs ++ [a]) = insert before a (rank before xs) := by
  simp [rank]

end Router.Ranking
