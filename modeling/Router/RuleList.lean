/-!
# Rules that count their hits

A list of rules in the order they were given, each with the number of times it decided. A rule is found by what it
says; of several equal rules the first is meant.
-/

namespace Router

/-- A rule and how often it decided. -/
structure Counted (ρ : Type) where
  rule : ρ
  hits : Nat
  deriving DecidableEq, Repr

/-- Rules in order, each with its hits. -/
abbrev RuleList (ρ : Type) := List (Counted ρ)

namespace RuleList

variable {ρ : Type}

/-- Rules that have not decided anything yet. -/
def fresh (rules : List ρ) : RuleList ρ :=
  rules.map fun rule => ⟨rule, 0⟩

/-- The rules alone. -/
def rules (list : RuleList ρ) : List ρ :=
  list.map Counted.rule

/-- The list with one more rule at its end. -/
def push (list : RuleList ρ) (rule : ρ) : RuleList ρ :=
  list ++ [⟨rule, 0⟩]

/-- The first rule that matches, and the list with one more hit for it. -/
def decide? (list : RuleList ρ) (isMatch : ρ → Bool) : Option (ρ × RuleList ρ) :=
  match list with
  | [] => none
  | entry :: rest =>
    if isMatch entry.rule then some (entry.rule, { entry with hits := entry.hits + 1 } :: rest)
    else (decide? rest isMatch).map fun (rule, rest) => (rule, entry :: rest)

/-- The list without the first rule equal to `target`, if there is one. -/
def erase? [DecidableEq ρ] (list : RuleList ρ) (target : ρ) : Option (RuleList ρ) :=
  match list with
  | [] => none
  | entry :: rest =>
    if entry.rule = target then some rest else (erase? rest target).map (entry :: ·)

/-- The list with a new rule, without hits, in place of the first rule equal to `target`, if there is one. -/
def replace? [DecidableEq ρ] (list : RuleList ρ) (target rule : ρ) : Option (RuleList ρ) :=
  match list with
  | [] => none
  | entry :: rest =>
    if entry.rule = target then some (⟨rule, 0⟩ :: rest) else (replace? rest target rule).map (entry :: ·)

/-- The list with no hits. -/
def resetHits (list : RuleList ρ) : RuleList ρ :=
  list.map fun entry => { entry with hits := 0 }

@[simp] theorem rules_fresh (rs : List ρ) : (fresh rs).rules = rs := by
  simp [fresh, rules, Function.comp_def]

@[simp] theorem rules_push (list : RuleList ρ) (rule : ρ) : (list.push rule).rules = list.rules ++ [rule] := by
  simp [push, rules]

@[simp] theorem rules_resetHits (list : RuleList ρ) : list.resetHits.rules = list.rules := by
  simp [resetHits, rules, Function.comp_def]

/-- The first rule that matches decides. -/
theorem map_fst_decide? (list : RuleList ρ) (isMatch : ρ → Bool) :
    (list.decide? isMatch).map Prod.fst = list.rules.find? isMatch := by
  induction list with
  | nil => rfl
  | cons entry rest ih =>
    by_cases h : isMatch entry.rule <;> simp_all [decide?, rules, Function.comp_def]

/-- Deciding changes no rule. -/
theorem rules_of_decide? {list after : RuleList ρ} {isMatch : ρ → Bool} {rule : ρ}
    (h : list.decide? isMatch = some (rule, after)) : after.rules = list.rules := by
  induction list generalizing after with
  | nil => simp [decide?] at h
  | cons entry rest ih =>
    rw [decide?] at h
    split at h
    · simp only [Option.some.injEq, Prod.mk.injEq] at h
      simp [← h.2, rules]
    · obtain ⟨⟨r, rest'⟩, hr, he⟩ := Option.map_eq_some_iff.1 h
      simp only [Prod.mk.injEq] at he
      have := ih (he.1 ▸ hr)
      simp only [rules] at this
      simp [← he.2, rules, this]

end RuleList

end Router
