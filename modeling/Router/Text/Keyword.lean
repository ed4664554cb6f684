/-!
# Keywords

A keyword type is a closed vocabulary with one spelling per word. Documents use the exact spelling (`spelled?`);
configuration text is read without regard to the case of ASCII letters (`read`). Main statements: the spelling of a word
of a sound vocabulary reads back in both ways (`spelled?_spelling`, `read_spelling`), and nothing but that spelling does,
up to case (`read_eq_ok_iff`).
-/

namespace Router.Text

/-- A closed vocabulary. -/
class Keyword (α : Type) where
  /-- What the words name, for messages. -/
  noun : String
  /-- The exact spelling of a word. -/
  spelling : α → String
  /-- Every word. -/
  all : List α
  /-- The word that an empty text stands for, if any. -/
  absent : Option α := none

/-- A text that is no word of the vocabulary called `noun`. -/
structure UnknownWord where
  noun : String
  text : String
  deriving DecidableEq, Repr

/-- The word as quoted in messages. -/
def UnknownWord.quoted (w : UnknownWord) : String :=
  s!"{w.noun} '{w.text}'"

/-- The wording of a reading fault. -/
def UnknownWord.message (w : UnknownWord) : String :=
  s!"unknown {w.quoted}"

/-- A text with its ASCII letters made small. -/
def foldCase (s : String) : List Char :=
  s.toList.map Char.toLower

namespace Keyword

variable {α : Type} [Keyword α]

/-- The word with exactly this spelling. -/
def spelled? (s : String) : Option α :=
  (all (α := α)).find? fun a => spelling a = s

/-- The word with this spelling up to the case of ASCII letters. -/
def find? (s : String) : Option α :=
  if s = "" then absent else (all (α := α)).find? fun a => foldCase (spelling a) = foldCase s

/-- The word that a text stands for. -/
def read (s : String) : Except UnknownWord α :=
  match find? (α := α) s with
  | some a => .ok a
  | none => .error ⟨noun α, s⟩

end Keyword

/-- A vocabulary that lists every word and tells spellings apart whatever their case. -/
class Keyword.Sound (α : Type) [Keyword α] : Prop where
  mem_all (a : α) : a ∈ Keyword.all (α := α)
  ne_empty (a : α) : Keyword.spelling a ≠ ""
  foldCase_inj {a b : α} (h : foldCase (Keyword.spelling a) = foldCase (Keyword.spelling b)) : a = b

namespace Keyword

variable {α : Type} [Keyword α] [Keyword.Sound α]

theorem find?_all_eq {p : α → Bool} {a : α} (ha : p a = true) (hp : ∀ b, p b = true → b = a) :
    (all (α := α)).find? p = some a := by
  cases h : (all (α := α)).find? p with
  | none => exact absurd ha (by simpa using List.find?_eq_none.1 h a (Sound.mem_all a))
  | some b => rw [hp b (List.find?_some h)]

theorem spelled?_spelling (a : α) : spelled? (spelling a) = some a :=
  find?_all_eq (by simp) fun b hb => Sound.foldCase_inj (by simp at hb; rw [hb])

theorem read_spelling (a : α) : read (spelling a) = .ok a := by
  have h : find? (spelling a) = some a := by
    rw [find?, if_neg (Sound.ne_empty a)]
    exact find?_all_eq (by simp) fun b hb => Sound.foldCase_inj (by simpa using hb)
  rw [read, h]

/-- In a vocabulary without a word for an empty text, a text stands for the word whose spelling it has up to the case
of ASCII letters. -/
theorem read_eq_ok_iff (habsent : absent (α := α) = none) {s : String} {a : α} :
    read s = .ok a ↔ foldCase (spelling a) = foldCase s := by
  have hread : read s = .ok a ↔ find? s = some a := by
    unfold read
    cases find? (α := α) s with
    | some b => simp
    | none => simp
  rw [hread]
  constructor
  · intro h
    unfold find? at h
    split at h
    · simp [habsent] at h
    · simpa using List.find?_some h
  · intro h
    have hs : s ≠ "" := by
      rintro rfl
      exact Sound.ne_empty a (by simpa [foldCase] using h)
    rw [find?, if_neg hs]
    refine find?_all_eq (by simpa using h) fun b hb => Sound.foldCase_inj ?_
    rw [h]
    simpa using hb

end Keyword

end Router.Text
