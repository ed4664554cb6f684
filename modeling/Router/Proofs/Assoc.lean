import Mathlib.Data.List.Nodup
import Router.Assoc

/-!
# Association lists with one entry for each key

In a list whose keys are distinct the entries are what `get?` sees (`mem_iff_get?`); each operation keeps the keys
distinct (`Distinct.insert`, `Distinct.adjust`, `Distinct.filter`). Entries may be kept by what stands at their key
(`get?_filter_value`). Items that have their keys in them are found by them in the same way (`find?_eq_some_iff`).
-/

namespace Router.Assoc

variable {κ α : Type} [DecidableEq κ]

/-- No key stands twice. -/
def Distinct (m : Assoc κ α) : Prop :=
  (m.map Prod.fst).Nodup

omit [DecidableEq κ] in
theorem distinct_nil : Distinct ([] : Assoc κ α) := List.nodup_nil

omit [DecidableEq κ] in
theorem Distinct.filter {m : Assoc κ α} (h : Distinct m) (keeps : κ × α → Bool) : Distinct (m.filter keeps) :=
  ((List.filter_sublist).map Prod.fst).nodup h

theorem Distinct.insert {m : Assoc κ α} (h : Distinct m) (k : κ) (a : α) : Distinct (insert m k a) := by
  have hk : k ∉ (erase m k).map Prod.fst := by
    intro hm
    obtain ⟨e, he, rfl⟩ := List.mem_map.1 hm
    simp [erase] at he
  exact List.nodup_cons.2 ⟨hk, h.filter _⟩

theorem Distinct.adjust {m : Assoc κ α} (h : Distinct m) (k : κ) (f : α → α) : Distinct (adjust m k f) := by
  have keys : (Assoc.adjust m k f).map Prod.fst = m.map Prod.fst := by
    rw [Assoc.adjust, List.map_map]
    refine List.map_congr_left fun e _ => ?_
    by_cases he : e.1 = k <;> simp [he]
  rw [Distinct, keys]
  exact h

/-- What stands at a key is an entry. -/
theorem mem_of_get? {m : Assoc κ α} {k : κ} {a : α} (h : get? m k = some a) : (k, a) ∈ m := by
  obtain ⟨e, he, rfl⟩ := Option.map_eq_some_iff.1 h
  have hk : e.1 = k := by simpa using List.find?_some he
  rw [← hk]
  exact List.mem_of_find?_eq_some he

theorem mem_iff_get? {m : Assoc κ α} (h : Distinct m) {k : κ} {a : α} : (k, a) ∈ m ↔ get? m k = some a := by
  refine ⟨fun hm => ?_, mem_of_get?⟩
  induction m with
  | nil => cases hm
  | cons e m ih =>
    have hd := List.nodup_cons.1 h
    rw [get?_cons]
    rcases List.mem_cons.1 hm with rfl | hm
    · simp
    · have hne : e.1 ≠ k := fun he => hd.1 (List.mem_map.2 ⟨(k, a), hm, he.symm⟩)
      rw [if_neg hne]
      exact ih hd.2 hm

/-- Keeping entries by their key keeps what stands at the keys that stay. -/
theorem get?_filter (m : Assoc κ α) (keeps : κ → Bool) (k : κ) :
    get? (m.filter fun e => keeps e.1) k = if keeps k then get? m k else none := by
  induction m with
  | nil => simp
  | cons e m ih =>
    rw [List.filter_cons]
    by_cases he : keeps e.1
    · rw [if_pos he, get?_cons, get?_cons, ih]
      by_cases hk : e.1 = k
      · subst hk
        simp [he]
      · simp [hk]
    · rw [if_neg he, ih, get?_cons]
      by_cases hk : e.1 = k
      · subst hk
        simp [he]
      · simp [hk]

/-- Keeping entries by what they hold empties the keys of the others. -/
theorem get?_filter_value {m : Assoc κ α} (h : Distinct m) (keeps : α → Bool) (k : κ) :
    get? (m.filter fun e => keeps e.2) k = (get? m k).filter keeps := by
  refine Option.ext fun a => ?_
  rw [Option.filter_eq_some_iff, ← mem_iff_get? (h.filter _), ← mem_iff_get? h, List.mem_filter]

/-- Among items with distinct keys the one found under a key is the one that has it. -/
theorem find?_eq_some_iff {key : α → κ} {items : List α} (h : (items.map key).Nodup) {k : κ} {a : α} :
    items.find? (fun b => key b = k) = some a ↔ a ∈ items ∧ key a = k := by
  constructor
  · intro ha
    have hkey := List.find?_some ha
    exact ⟨List.mem_of_find?_eq_some ha, of_decide_eq_true hkey⟩
  · rintro ⟨ha, rfl⟩
    cases hfound : items.find? (fun b => key b = key a) with
    | none => exact absurd (decide_eq_true rfl) (List.find?_eq_none.1 hfound a ha)
    | some b =>
      have hkey := List.find?_some hfound
      rw [List.inj_on_of_nodup_map h (List.mem_of_find?_eq_some hfound) ha (of_decide_eq_true hkey)]

end Router.Assoc
