import Mathlib.Data.List.Induction
import Router.Ranking

/-!
# Ranked lists

Let `before` be a strict order in which "neither stands before the other" is an equivalence, a rank (`IsRanking`).
Then a ranked list has no element behind one that it stands before (`sorted_rank`), and elements of one rank stand as
they stood in the list (`filter_rank`). So the first element of a ranked list with a property is the best that the
list has with it, and of several the first in the list (`find?_rank_eq_some_iff`). An element that all others are
ahead of comes last (`rank_last`).
-/

namespace Router.Ranking

variable {α : Type} {before : α → α → Bool}

/-- A strict order; what stands between two ends stands apart from one of them. -/
structure IsRanking (before : α → α → Bool) : Prop where
  asymm : ∀ a b, before a b = true → before b a = false
  between : ∀ a b c, before a c = true → before a b = true ∨ before b c = true

theorem IsRanking.irrefl (h : IsRanking before) (a : α) : before a a = false := by
  cases ha : before a a with
  | false => rfl
  | true => exact ha.symm.trans (h.asymm a a ha)

theorem IsRanking.not_before_trans (h : IsRanking before) {a b c : α} (hab : before a b = false)
    (hbc : before b c = false) : before a c = false := by
  rw [← Bool.not_eq_true] at hab hbc ⊢
  intro hac
  exact (h.between a b c hac).elim hab hbc

/-- No element stands behind one that it is before. -/
def Sorted (before : α → α → Bool) (xs : List α) : Prop :=
  xs.Pairwise fun a b => before b a = false

/-! ## Order -/

theorem sorted_insert (h : IsRanking before) (a : α) {xs : List α} (hxs : Sorted before xs) :
    Sorted before (insert before a xs) := by
  induction xs with
  | nil => exact List.pairwise_singleton _ a
  | cons b rest ih =>
    obtain ⟨hb, hrest⟩ := List.pairwise_cons.1 hxs
    rw [insert]
    split
    · rename_i hab
      refine List.pairwise_cons.2 ⟨?_, hxs⟩
      intro c hc
      rcases List.mem_cons.1 hc with rfl | hc
      · exact h.asymm a c hab
      · -- `c` is not before `b`, which comes first in `xs`, and `b` is not before `a`.
        exact h.not_before_trans (hb c hc) (h.asymm a b hab)
    · rename_i hab
      refine List.pairwise_cons.2 ⟨?_, ih hrest⟩
      intro c hc
      rcases List.mem_cons.1 ((insert_perm before a rest).mem_iff.1 hc) with rfl | hc
      · simpa using hab
      · exact hb c hc

/-- A ranked list is in order. -/
theorem sorted_rank (h : IsRanking before) (xs : List α) : Sorted before (rank before xs) := by
  induction xs using List.reverseRecOn with
  | nil => exact List.Pairwise.nil
  | append_singleton xs a ih =>
    rw [rank_append_singleton]
    exact sorted_insert h a ih

theorem insert_of_not_before {a : α} {xs : List α} (h : ∀ b ∈ xs, before a b = false) :
    insert before a xs = xs ++ [a] := by
  induction xs with
  | nil => rfl
  | cons b rest ih =>
    rw [insert, if_neg (by simp [h b List.mem_cons_self]), ih fun c hc => h c (List.mem_cons_of_mem b hc)]
    rfl

/-- A list that is in order stays as it is. -/
theorem rank_of_sorted {xs : List α} (h : Sorted before xs) : rank before xs = xs := by
  induction xs using List.reverseRecOn with
  | nil => rfl
  | append_singleton xs a ih =>
    obtain ⟨hxs, -, hlast⟩ := List.pairwise_append.1 h
    rw [rank_append_singleton, ih hxs]
    exact insert_of_not_before fun b hb => hlast b hb a List.mem_cons_self

/-! ## Ranked by what is read off the elements -/

section Map

variable {β : Type} (f : β → α)

theorem map_insert (b : β) (xs : List β) :
    (insert (fun a b => before (f a) (f b)) b xs).map f = insert before (f b) (xs.map f) := by
  induction xs with
  | nil => rfl
  | cons c rest ih =>
    rw [List.map_cons, insert, insert]
    split
    · rfl
    · rw [List.map_cons, ih]

theorem map_rank (xs : List β) : (rank (fun a b => before (f a) (f b)) xs).map f = rank before (xs.map f) := by
  induction xs using List.reverseRecOn with
  | nil => rfl
  | append_singleton xs b ih =>
    rw [List.map_append, List.map_singleton, rank_append_singleton, rank_append_singleton, map_insert, ih]

end Map

/-! ## One element behind all others -/

section Last

variable {ahead : α → α → Bool} {others : α → Prop} {d : α}

theorem insert_congr (hsame : ∀ a b, others a → others b → ahead a b = before a b) {a : α} (ha : others a)
    {xs : List α} (hxs : ∀ b ∈ xs, others b) : insert ahead a xs = insert before a xs := by
  induction xs with
  | nil => rfl
  | cons b rest ih =>
    obtain ⟨hb, hrest⟩ := List.forall_mem_cons.1 hxs
    rw [insert, insert, hsame a b ha hb, ih hrest]

theorem rank_congr (hsame : ∀ a b, others a → others b → ahead a b = before a b) {xs : List α}
    (hxs : ∀ b ∈ xs, others b) : rank ahead xs = rank before xs := by
  induction xs using List.reverseRecOn with
  | nil => rfl
  | append_singleton xs a ih =>
    obtain ⟨hxs, ha⟩ := List.forall_mem_append.1 hxs
    rw [rank_append_singleton, rank_append_singleton, ih hxs]
    refine insert_congr hsame (ha a List.mem_cons_self) fun b hb => ?_
    exact hxs b ((rank_perm before xs).mem_iff.1 hb)

theorem insert_append_last (hsame : ∀ a b, others a → others b → ahead a b = before a b)
    (hlast : ∀ a, others a → ahead a d = true) {a : α} (ha : others a) {xs : List α} (hxs : ∀ b ∈ xs, others b) :
    insert ahead a (xs ++ [d]) = insert before a xs ++ [d] := by
  induction xs with
  | nil => simp [insert, hlast a ha]
  | cons b rest ih =>
    obtain ⟨hb, hrest⟩ := List.forall_mem_cons.1 hxs
    rw [List.cons_append, insert, insert, hsame a b ha hb, ih hrest]
    split <;> rfl

variable (others) in
/-- Ranking a list with one element that all others are ahead of ranks the others and puts it last. -/
theorem rank_last (hsame : ∀ a b, others a → others b → ahead a b = before a b)
    (hlast : ∀ a, others a → ahead a d = true ∧ ahead d a = false) {xs ys : List α}
    (hxs : ∀ a ∈ xs, others a) (hys : ∀ a ∈ ys, others a) :
    rank ahead (xs ++ d :: ys) = rank before (xs ++ ys) ++ [d] := by
  induction ys using List.reverseRecOn with
  | nil =>
    rw [rank_append_singleton, rank_congr hsame hxs, List.append_nil]
    exact insert_of_not_before fun b hb => (hlast b (hxs b ((rank_perm before xs).mem_iff.1 hb))).2
  | append_singleton ys a ih =>
    obtain ⟨hys, ha⟩ := List.forall_mem_append.1 hys
    have hall : ∀ b ∈ rank before (xs ++ ys), others b := fun b hb =>
      List.forall_mem_append.2 ⟨hxs, hys⟩ b ((rank_perm before (xs ++ ys)).mem_iff.1 hb)
    rw [← List.cons_append, ← List.append_assoc, rank_append_singleton, ih hys, ← List.append_assoc,
      rank_append_singleton]
    exact insert_append_last hsame (fun b hb => (hlast b hb).1) (ha a List.mem_cons_self) hall

end Last

/-! ## Elements of one rank -/

section Stable

variable {kind : α → Bool}

/-- An element comes behind those of its rank. -/
theorem filter_insert (h : IsRanking before)
    (hkind : ∀ a b, kind a = true → kind b = true → before a b = false) (a : α) {xs : List α}
    (hxs : Sorted before xs) : (insert before a xs).filter kind = xs.filter kind ++ [a].filter kind := by
  induction xs with
  | nil => rfl
  | cons b rest ih =>
    obtain ⟨hb, hrest⟩ := List.pairwise_cons.1 hxs
    rw [insert]
    split
    · rename_i hab
      cases ha : kind a with
      | false => simp [ha]
      | true =>
        -- All of `b :: rest` stand behind `a`, so none of them is of its rank.
        have hnone : (b :: rest).filter kind = [] := by
          refine List.filter_eq_nil_iff.2 fun c hc hkc => ?_
          have hac := hkind a c ha hkc
          have hno : before a b = false := by
            rcases List.mem_cons.1 hc with rfl | hc
            · exact hac
            · exact h.not_before_trans hac (hb c hc)
          rw [hab] at hno
          cases hno
        rw [List.filter_cons_of_pos ha, hnone]
        simp [ha]
    · rw [List.filter_cons, List.filter_cons, ih hrest]
      split <;> rfl

/-- Elements of one rank keep their order. -/
theorem filter_rank (h : IsRanking before)
    (hkind : ∀ a b, kind a = true → kind b = true → before a b = false) (xs : List α) :
    (rank before xs).filter kind = xs.filter kind := by
  induction xs using List.reverseRecOn with
  | nil => rfl
  | append_singleton xs a ih =>
    rw [rank_append_singleton, filter_insert h hkind a (sorted_rank h xs), ih, List.filter_append]

end Stable

/-! ## The first of a kind -/

/-- An element of a list has a property, it stands before all in front of it that have the property too, and none
behind it that has the property stands before it. -/
def Best (before : α → α → Bool) (has : α → Bool) (xs : List α) (a : α) : Prop :=
  ∃ front back, xs = front ++ a :: back ∧ has a = true ∧ (∀ b ∈ front, has b = true → before a b = true) ∧
    ∀ b ∈ back, has b = true → before b a = false

/-- None with the property stands before the best. -/
theorem Best.least (h : IsRanking before) {has : α → Bool} {xs : List α} {a : α} (hbest : Best before has xs a) :
    ∀ b ∈ xs, has b = true → before b a = false := by
  obtain ⟨front, back, rfl, -, hfront, hback⟩ := hbest
  intro b hb hhas
  rcases List.mem_append.1 hb with hb | hb
  · exact h.asymm a b (hfront b hb hhas)
  · rcases List.mem_cons.1 hb with rfl | hb
    · exact h.irrefl b
    · exact hback b hb hhas

/-- Whether an element has a property, and is of the rank of another. -/
def peer (before : α → α → Bool) (has : α → Bool) (a b : α) : Bool :=
  has b && !before a b && !before b a

theorem peer_self (h : IsRanking before) {has : α → Bool} {a : α} (ha : has a = true) :
    peer before has a a = true := by
  simp [peer, ha, h.irrefl a]

/-- Ranking a list does not change which of the peers of an element comes first. -/
theorem find?_peer_rank (h : IsRanking before) (has : α → Bool) (a : α) (xs : List α) :
    (rank before xs).find? (peer before has a) = xs.find? (peer before has a) := by
  rw [← List.head?_filter, ← List.head?_filter, filter_rank h]
  intro b c hb hc
  simp only [peer, Bool.and_eq_true, Bool.not_eq_true'] at hb hc
  exact h.not_before_trans hb.2 hc.1.2

theorem best_of_find?_rank (h : IsRanking before) {has : α → Bool} {xs : List α} {a : α}
    (hfind : (rank before xs).find? has = some a) : Best before has xs a := by
  obtain ⟨ha, front, back, hranked, hfront⟩ := List.find?_eq_some_iff_append.1 hfind
  have hsorted := sorted_rank h xs
  rw [hranked] at hsorted
  -- No element of the list that has the property stands before `a`.
  have hleast : ∀ b ∈ xs, has b = true → before b a = false := by
    intro b hb hhas
    have hmem := (rank_perm before xs).mem_iff.2 hb
    rw [hranked] at hmem
    rcases List.mem_append.1 hmem with hb | hb
    · have hno := hfront b hb
      simp [hhas] at hno
    · rcases List.mem_cons.1 hb with rfl | hb
      · exact h.irrefl b
      · exact (List.pairwise_cons.1 (List.pairwise_append.1 hsorted).2.1).1 b hb
  have hpeer : xs.find? (peer before has a) = some a := by
    rw [← find?_peer_rank h]
    refine List.find?_eq_some_iff_append.2 ⟨peer_self h ha, front, back, hranked, ?_⟩
    intro b hb
    have hno := hfront b hb
    simp_all [peer]
  obtain ⟨-, front', back', hxs, hfront'⟩ := List.find?_eq_some_iff_append.1 hpeer
  refine ⟨front', back', hxs, ha, ?_, ?_⟩
  · intro b hb hhas
    have hno := hfront' b hb
    have hba := hleast b (by simp [hxs, hb]) hhas
    simpa [peer, hhas, hba] using hno
  · intro b hb hhas
    exact hleast b (by simp [hxs, hb]) hhas

theorem find?_rank_of_best (h : IsRanking before) {has : α → Bool} {xs : List α} {a : α}
    (hbest : Best before has xs a) : (rank before xs).find? has = some a := by
  have hleast := hbest.least h
  obtain ⟨front, back, hxs, ha, hfront, -⟩ := hbest
  have hpeer : (rank before xs).find? (peer before has a) = some a := by
    rw [find?_peer_rank h]
    refine List.find?_eq_some_iff_append.2 ⟨peer_self h ha, front, back, hxs, ?_⟩
    intro b hb
    cases hhas : has b with
    | false => simp [peer, hhas]
    | true => simp [peer, hfront b hb hhas]
  obtain ⟨-, front', back', hranked, hfront'⟩ := List.find?_eq_some_iff_append.1 hpeer
  refine List.find?_eq_some_iff_append.2 ⟨ha, front', back', hranked, ?_⟩
  -- What stands in front of `a` with the property would be a peer of `a`.
  intro b hb
  have hsorted := sorted_rank h xs
  rw [hranked] at hsorted
  have hab := (List.pairwise_append.1 hsorted).2.2 b hb a List.mem_cons_self
  have hmem : b ∈ xs := (rank_perm before xs).mem_iff.1 (by simp [hranked, hb])
  cases hhas : has b with
  | false => rfl
  | true =>
    have hno := hfront' b hb
    simp [peer, hhas, hab, hleast b hmem hhas] at hno

/-- The first element of a ranked list with a property is the best with it, and of several the first in the list. -/
theorem find?_rank_eq_some_iff (h : IsRanking before) {has : α → Bool} {xs : List α} {a : α} :
    (rank before xs).find? has = some a ↔ Best before has xs a :=
  ⟨best_of_find?_rank h, find?_rank_of_best h⟩

end Router.Ranking
