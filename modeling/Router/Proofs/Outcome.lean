import Mathlib.Data.List.Forall2

/-!
# Results that are no errors

A result gives a value or an error (`Succeeds`). A list of results gives a list of values exactly if each of them gives
one (`succeeds_mapM_iff`), and these are the values, in order (`mapM_eq_ok_iff`).
-/

namespace Router

variable {α β ε : Type}

/-- A result that is no error. -/
def Succeeds (r : Except ε α) : Prop :=
  ∃ a, r = .ok a

theorem Succeeds.ok (a : α) : Succeeds (.ok a : Except ε α) :=
  ⟨a, rfl⟩

theorem not_succeeds_error (e : ε) : ¬ Succeeds (.error e : Except ε α) :=
  fun ⟨_, h⟩ => nomatch h

@[simp] theorem succeeds_map_iff {f : α → β} {r : Except ε α} : Succeeds (r.map f) ↔ Succeeds r := by
  cases r with
  | ok a => exact iff_of_true (.ok (f a)) (.ok a)
  | error e => exact iff_of_false (not_succeeds_error e) (not_succeeds_error e)

/-- A list converts exactly if each of its elements does. -/
theorem succeeds_mapM_iff {convert : α → Except ε β} {items : List α} :
    Succeeds (items.mapM convert) ↔ ∀ a ∈ items, Succeeds (convert a) := by
  induction items with
  | nil => exact iff_of_true (.ok []) (List.forall_mem_nil _)
  | cons a rest ih =>
    rw [List.forall_mem_cons, ← ih, List.mapM_cons]
    cases convert a with
    | error e => exact iff_of_false (not_succeeds_error e) fun h => not_succeeds_error e h.1
    | ok b =>
      cases rest.mapM convert with
      | error e => exact iff_of_false (not_succeeds_error e) fun h => not_succeeds_error e h.2
      | ok bs => exact iff_of_true (.ok (b :: bs)) ⟨.ok b, .ok bs⟩

/-! ## The value -/

theorem mapError_eq_ok_iff {ε' : Type} {f : ε → ε'} {r : Except ε α} {a : α} : r.mapError f = .ok a ↔ r = .ok a := by
  cases r with
  | ok b => exact ⟨fun h => congrArg _ (Except.ok.inj h), fun h => congrArg _ (Except.ok.inj h)⟩
  | error e => exact iff_of_false (fun h => nomatch h) fun h => nomatch h

theorem map_eq_ok_iff {f : α → β} {r : Except ε α} {b : β} : r.map f = .ok b ↔ ∃ a, r = .ok a ∧ f a = b := by
  cases r with
  | ok a =>
    constructor
    · intro h
      exact ⟨a, rfl, Except.ok.inj h⟩
    · rintro ⟨a', ha, rfl⟩
      cases ha
      rfl
  | error e => exact iff_of_false (fun h => nomatch h) fun ⟨_, h, _⟩ => nomatch h

theorem bind_eq_ok_iff {r : Except ε α} {next : α → Except ε β} {b : β} :
    r >>= next = .ok b ↔ ∃ a, r = .ok a ∧ next a = .ok b := by
  cases r with
  | ok a =>
    constructor
    · intro h
      exact ⟨a, rfl, h⟩
    · rintro ⟨a', ha, h⟩
      cases ha
      exact h
  | error e => exact iff_of_false (fun h => nomatch h) fun ⟨_, h, _⟩ => nomatch h

/-- What a list converts to is what its elements convert to, one by one. -/
theorem mapM_eq_ok_iff {convert : α → Except ε β} {items : List α} {values : List β} :
    items.mapM convert = .ok values ↔ List.Forall₂ (fun a b => convert a = .ok b) items values := by
  induction items generalizing values with
  | nil =>
    rw [List.forall₂_nil_left_iff]
    constructor
    · intro h
      exact (Except.ok.inj h).symm
    · rintro rfl
      rfl
  | cons a rest ih =>
    rw [List.mapM_cons, List.forall₂_cons_left_iff, bind_eq_ok_iff]
    constructor
    · rintro ⟨b, hb, hrest⟩
      obtain ⟨bs, hbs, hvalues⟩ := bind_eq_ok_iff.1 hrest
      exact ⟨b, bs, hb, ih.1 hbs, (Except.ok.inj hvalues).symm⟩
    · rintro ⟨b, bs, hb, hbs, rfl⟩
      exact ⟨b, hb, bind_eq_ok_iff.2 ⟨bs, ih.2 hbs, rfl⟩⟩

end Router
