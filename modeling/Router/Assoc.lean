/-!
# Association lists

A finite map as a list of pairs, searched from the front. Main statements: the view `get?` of each operation
(`get?_insert`, `get?_erase`, `get?_adjust`).
-/

namespace Router

/-- A finite map from keys to values. -/
abbrev Assoc (κ α : Type) := List (κ × α)

namespace Assoc

variable {κ α : Type} [DecidableEq κ]

/-- The value at a key. -/
def get? (m : Assoc κ α) (k : κ) : Option α :=
  (m.find? fun e => e.1 = k).map Prod.snd

/-- The map without a key. -/
def erase (m : Assoc κ α) (k : κ) : Assoc κ α :=
  m.filter fun e => e.1 ≠ k

/-- The map with a value at a key, whatever stood there. -/
def insert (m : Assoc κ α) (k : κ) (a : α) : Assoc κ α :=
  (k, a) :: erase m k

/-- The map with the value at a key, if any, changed by `f`. -/
def adjust (m : Assoc κ α) (k : κ) (f : α → α) : Assoc κ α :=
  m.map fun e => if e.1 = k then (e.1, f e.2) else e

@[simp] theorem get?_nil (k : κ) : get? ([] : Assoc κ α) k = none := rfl

theorem get?_cons (e : κ × α) (m : Assoc κ α) (k : κ) :
    get? (e :: m) k = if e.1 = k then some e.2 else get? m k := by
  by_cases h : e.1 = k <;> simp [get?, h]

theorem get?_erase (m : Assoc κ α) (k l : κ) : get? (erase m k) l = if l = k then none else get? m l := by
  induction m with
  | nil => simp [erase]
  | cons e m ih =>
    rw [erase] at ih
    by_cases hk : e.1 = k <;> by_cases hl : e.1 = l <;> simp_all [erase, get?_cons]

theorem get?_insert (m : Assoc κ α) (k l : κ) (a : α) :
    get? (insert m k a) l = if l = k then some a else get? m l := by
  rw [insert, get?_cons, get?_erase]
  by_cases h : l = k
  · simp [h]
  · simp [h, Ne.symm h]

theorem get?_adjust (m : Assoc κ α) (k l : κ) (f : α → α) :
    get? (adjust m k f) l = if l = k then (get? m l).map f else get? m l := by
  induction m with
  | nil => simp [adjust]
  | cons e m ih =>
    rw [adjust] at ih
    rw [adjust, List.map_cons, get?_cons, get?_cons, ih]
    by_cases hk : e.1 = k
    · by_cases hl : k = l
      · simp [hk, hl]
      · simp [hk, hl, Ne.symm hl]
    · by_cases hl : e.1 = l
      · simp [hl, show ¬ l = k from hl ▸ hk]
      · simp [hk, hl]

end Assoc

end Router
