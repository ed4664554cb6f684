import Router.Proofs.Outcome
import Router.Proofs.Toml.Strings

/-!
# Lines written and read

What is written for a scalar stands for it unless it is too small an integer (`noted_scalarChars`), and so the lines for
fields state them (`layout_fieldLine`). The other way, a name without quotes, an integer of 64 bits and a string are
read where they stand (`value?_of_noted`), and so is every line that states a clause (`says_of_stated`). `Says text ss`
tells that a text at the front of others is read as the statements `ss` there; main statement: a text laid out as
clauses is read as their statements (`says_of_layout`).
-/

namespace Router.Toml

open Router.Document Router.Text

variable {rest : List Char}

theorem skipSpaces_cons {c : Char} (h : isSpace c = false) (cs : List Char) : skipSpaces (c :: cs) = c :: cs :=
  List.dropWhile_cons_of_neg (ne_true_of_eq_false h)

/-! ## Names -/

theorem exists_cons_of_isBare {name : String} (h : isBare name = true) :
    ∃ c cs, name.toList = c :: cs ∧ isBareChar c = true := by
  simp only [isBare, Bool.and_eq_true, decide_eq_true_eq, List.all_eq_true] at h
  obtain ⟨c, cs, hname⟩ := List.exists_cons_of_ne_nil h.1
  exact ⟨c, cs, hname, h.2 c (hname ▸ List.mem_cons_self)⟩

theorem isSpace_of_isBareChar {c : Char} (h : isBareChar c = true) : isSpace c = false := by
  have hne : c ≠ ' ' ∧ c ≠ '\t' := ⟨ne_of_test h (by decide), ne_of_test h (by decide)⟩
  simp [isSpace, hne]

theorem name?_bare {name : String} (h : isBare name = true) (hrest : ∀ c ∈ rest.head?, isBareChar c = false)
    (hdot : (skipSpaces rest).head? ≠ some '.') : name? (name.toList ++ rest) = some ([], name, skipSpaces rest) := by
  obtain ⟨c, cs, hname, hc⟩ := exists_cons_of_isBare h
  have hskip : skipSpaces (name.toList ++ rest) = name.toList ++ rest := by
    rw [hname, List.cons_append, skipSpaces_cons (isSpace_of_isBareChar hc)]
  have hspan : _ ∧ _ := span_append (List.all_eq_true.1 (Bool.and_eq_true_iff.1 h).2) hrest
  have hpart : namePart? (name.toList ++ rest) = some (name, rest) := by
    rw [namePart?.eq_3, hspan.1, hspan.2, if_neg (by rw [hname]; exact List.cons_ne_nil _ _), String.ofList_toList]
    all_goals
      intro tail heq
      rw [hname] at heq
      exact ne_of_test hc (by decide) (List.head_eq_of_cons_eq heq)
  have hparts : nameParts? maxDepth (name.toList ++ rest) = some ([name], skipSpaces rest) := by
    rw [maxDepth, nameParts?, hskip, hpart]
    simp only [Option.bind_eq_bind, Option.bind_some]
    split
    · rename_i heq
      rw [heq] at hdot
      exact absurd rfl hdot
    · rfl
  rw [name?, hparts]
  rfl

/-! ## Integers -/

theorem decimal?_chars (n : Nat) : decimal? (Decimal.chars n) = some n := by
  have hdigits : ∀ c ∈ Nat.toDigits 10 n, Radix.isDigit 10 c = true :=
    Radix.isDigit_of_mem_toDigits (by decide) (by decide) n
  have hungroup : ungroup? 10 (Decimal.chars n) = some (Decimal.chars n) := by
    rw [ungroup?, fields_of_not_mem (Decimal.not_mem_chars (by decide) n)]
    simp [Decimal.chars, List.all_eq_true.2 hdigits]
  rw [decimal?, if_neg fun h => h.2 (Decimal.length_chars_of_head? h.1), hungroup, Option.map_some, Decimal.chars,
    Radix.value_toDigits (by decide) (by decide)]

theorem toList_toString_ofNat (n : Nat) : (toString (Int.ofNat n)).toList = Decimal.chars n :=
  Decimal.toList_repr n

theorem toList_toString_negSucc (n : Nat) :
    (toString (Int.negSucc n)).toList = '-' :: Decimal.chars (n + 1) := by
  have htext : toString (Int.negSucc n) = "-" ++ (n + 1).repr := rfl
  rw [htext, String.toList_append, Decimal.toList_repr]
  rfl

theorem mem_toString_int {n : Int} {c : Char} (h : c ∈ (toString n).toList) : c = '-' ∨ c.isDigit = true := by
  cases n with
  | ofNat n =>
    rw [toList_toString_ofNat] at h
    exact .inr (Decimal.isDigit_of_mem_chars n c h)
  | negSucc n =>
    rw [toList_toString_negSucc, List.mem_cons] at h
    exact h.imp id (Decimal.isDigit_of_mem_chars (n + 1) c)

theorem exists_cons_toString_int (n : Int) :
    ∃ c cs, (toString n).toList = c :: cs ∧ (c = '-' ∨ c.isDigit = true) := by
  have hne : (toString n).toList ≠ [] := by
    cases n with
    | ofNat n => rw [toList_toString_ofNat]; exact Decimal.chars_ne_nil n
    | negSucc n => rw [toList_toString_negSucc]; exact List.cons_ne_nil _ _
  obtain ⟨c, cs, htext⟩ := List.exists_cons_of_ne_nil hne
  exact ⟨c, cs, htext, mem_toString_int (htext ▸ List.mem_cons_self)⟩

theorem sign_chars (n : Nat) : sign (Decimal.chars n) = (false, Decimal.chars n) := by
  have hfirst : ∀ c tail, Decimal.chars n = c :: tail → c.isDigit = true := fun c tail h =>
    Decimal.isDigit_of_mem_chars n c (h ▸ List.mem_cons_self)
  unfold sign
  split
  · rename_i heq
    exact absurd (hfirst _ _ heq) (by decide)
  · rename_i heq
    exact absurd (hfirst _ _ heq) (by decide)
  · rfl

theorem integer?_toString {n : Int} (hlow : -(maxInteger + 1 : Int) ≤ n) (hhigh : n ≤ maxInteger) :
    integer? (toString n).toList = some n := by
  have hradix : ∀ c tail, c.isDigit = false → c ≠ '-' → (toString n).toList ≠ '0' :: c :: tail := by
    intro c tail hdigit hminus heq
    have hmem : c ∈ (toString n).toList := heq ▸ List.mem_cons_of_mem _ List.mem_cons_self
    rcases mem_toString_int hmem with h | h
    · exact hminus h
    · rw [hdigit] at h
      cases h
  rw [integer?.eq_4 _ (fun _ => hradix 'x' _ (by decide) (by decide)) (fun _ => hradix 'o' _ (by decide) (by decide))
    (fun _ => hradix 'b' _ (by decide) (by decide))]
  cases n with
  | ofNat n =>
    rw [toList_toString_ofNat, sign_chars]
    dsimp only
    rw [decimal?_chars]
    exact if_pos (Int.ofNat_le.1 hhigh)
  | negSucc n =>
    rw [toList_toString_negSucc, sign]
    dsimp only
    rw [decimal?_chars]
    dsimp only
    rw [if_pos rfl, if_pos (by omega)]
    rfl

/-! ## Scalars -/

theorem isTokenChar_of_isDigit {c : Char} (h : c.isDigit = true) : isTokenChar c = true := by
  simp [isTokenChar, Char.isAlphanum, h]

theorem token_toString_int (n : Int) :
    token ((toString n).toList ++ '\n' :: rest) = ((toString n).toList, '\n' :: rest) := by
  have hfront : ∀ c ∈ (toString n).toList, isTokenChar c = true := fun c hc =>
    (mem_toString_int hc).elim (fun h => h ▸ by decide) isTokenChar_of_isDigit
  have hrest : ∀ c ∈ ('\n' :: rest).head?, isTokenChar c = false := fun c hc => by cases hc; decide
  rw [token, (span_append hfront hrest).1, (span_append hfront hrest).2]
  rfl

/-- An integer is no word of letters. -/
theorem word?_toString_int {n : Int} (hlow : -(maxInteger + 1 : Int) ≤ n) (hhigh : n ≤ maxInteger) :
    word? (toString n).toList = some (.integer n) := by
  have hword : ∀ word : List Char, 'e' ∈ word → (toString n).toList ≠ word := by
    intro word he heq
    rcases mem_toString_int (heq ▸ he) with h | h <;> exact absurd h (by decide)
  rw [word?, if_neg (hword _ (by decide)), if_neg (hword _ (by decide)), integer?_toString hlow hhigh]

theorem value?_integer {n : Int} (hlow : -(maxInteger + 1 : Int) ≤ n) (hhigh : n ≤ maxInteger) (depth fuel : Nat) :
    value? depth (fuel + 1) ((toString n).toList ++ '\n' :: rest) = some (.integer n, '\n' :: rest) := by
  obtain ⟨c, cs, htext, hc⟩ := exists_cons_toString_int n
  have hhead : ∀ d tail, d.isDigit = false → d ≠ '-' → (toString n).toList ++ '\n' :: rest ≠ d :: tail := by
    intro d tail hdigit hminus heq
    rw [htext] at heq
    rw [List.head_eq_of_cons_eq heq, hdigit] at hc
    exact hc.elim hminus Bool.false_ne_true
  rw [value?.eq_6 _ _ _ (fun _ => hhead _ _ (by decide) (by decide)) (fun _ => hhead _ _ (by decide) (by decide))
    (fun _ => hhead _ _ (by decide) (by decide)) (fun _ => hhead _ _ (by decide) (by decide)), token_toString_int]
  dsimp only
  rw [word?_toString_int hlow hhigh, Option.map_some]

/-- A string starts with one of two quotes. -/
theorem Quoted.exists_cons {cs text : List Char} (h : Quoted cs text) :
    ∃ quote body, text = quote :: body ∧ (quote = '"' ∨ quote = '\'') := by
  have hfence : ∀ {quote Piece}, Fence quote Piece → quote = '"' ∨ quote = '\'' := fun hfence => by
    cases hfence with
    | basic => exact .inl rfl
    | literal => exact .inr rfl
  cases h with
  | basic => exact ⟨_, _, rfl, .inl rfl⟩
  | literal => exact ⟨_, _, rfl, .inr rfl⟩
  | lines h => exact ⟨_, _, rfl, hfence h⟩
  | linesBelow h => exact ⟨_, _, rfl, hfence h⟩

theorem value?_text {s : String} {chars : List Char} (h : Quoted s.toList chars) (depth fuel : Nat) :
    value? depth (fuel + 1) (chars ++ '\n' :: rest) = some (.text s, '\n' :: rest) := by
  have hread : string? (chars ++ '\n' :: rest) = some (s.toList, '\n' :: rest) :=
    string?_of_quoted h (fun hhead => absurd (Option.some.inj hhead) (by decide))
      (fun hhead => absurd (Option.some.inj hhead) (by decide))
  obtain ⟨quote, body, rfl, rfl | rfl⟩ := h.exists_cons
  · rw [List.cons_append] at hread ⊢
    rw [value?.eq_2, hread, Option.map_some]
    dsimp only
    rw [String.ofList_toList]
  · rw [List.cons_append] at hread ⊢
    rw [value?.eq_3, hread, Option.map_some]
    dsimp only
    rw [String.ofList_toList]

variable {s : Scalar} {chars : List Char}

/-- What stands for a scalar is read as that scalar. -/
theorem value?_of_noted (h : Noted s chars) (depth fuel : Nat) :
    value? depth (fuel + 1) (chars ++ '\n' :: rest) = some (s.value, '\n' :: rest) := by
  cases h with
  | text hquoted => exact value?_text hquoted depth fuel
  | integer hlow hhigh => exact value?_integer hlow hhigh depth fuel

theorem skipSpaces_of_noted (h : Noted s chars) (rest : List Char) : skipSpaces (chars ++ rest) = chars ++ rest := by
  cases h with
  | text hquoted =>
    obtain ⟨quote, body, rfl, rfl | rfl⟩ := hquoted.exists_cons
    · exact skipSpaces_cons (by decide) _
    · exact skipSpaces_cons (by decide) _
  | @integer n =>
    obtain ⟨c, cs, htext, hc⟩ := exists_cons_toString_int n
    have hspace : isSpace c = false := by
      rcases hc with rfl | hc
      · decide
      · exact isSpace_of_isBareChar (by simp [isBareChar, Char.isAlphanum, hc])
    rw [htext, List.cons_append, skipSpaces_cons hspace]

/-- A scalar that is not too small for a document; the writer sees to those that are too large. -/
def fits : Scalar → Prop
  | .integer n => -(maxInteger + 1 : Int) ≤ n
  | .text _ => True

/-- A scalar that is not too large for a document. -/
def writable : Scalar → Prop
  | .integer n => n ≤ maxInteger
  | .text _ => True

theorem succeeds_scalarChars_iff {s : Scalar} : Succeeds (scalarChars s) ↔ writable s := by
  cases s with
  | text s => exact iff_of_true (.ok _) trivial
  | integer n =>
    rw [scalarChars, writable]
    split
    · rename_i hlarge
      exact iff_of_false (not_succeeds_error _) (Int.not_le.2 hlarge)
    · rename_i hlarge
      exact iff_of_true (.ok _) (Int.not_lt.1 hlarge)

theorem scalarChars_integer {n : Int} {chars : List Char} (h : scalarChars (.integer n) = .ok chars) :
    n ≤ maxInteger ∧ chars = (toString n).toList := by
  rw [scalarChars] at h
  split at h
  · cases h
  · rename_i hhigh
    cases h
    exact ⟨Int.not_lt.1 hhigh, rfl⟩

/-- What is written for a scalar stands for it. -/
theorem noted_scalarChars (hfits : fits s) (h : scalarChars s = .ok chars) : Noted s chars := by
  cases s with
  | integer n =>
    obtain ⟨hhigh, rfl⟩ := scalarChars_integer h
    exact .integer hfits hhigh
  | text s =>
    cases h
    exact .text (quoted_stringChars s.toList)

/-- What is written for a field states it. -/
theorem layout_fieldLine {field : String × Scalar} (hname : isBare field.1 = true) (hfits : fits field.2)
    {line : List Char} (h : fieldLine field = .ok line) : Layout [.field field.1 field.2] line := by
  rw [fieldLine] at h
  cases hvalue : scalarChars field.2 with
  | error => rw [hvalue] at h; cases h
  | ok chars =>
    rw [hvalue] at h
    cases h
    exact .single (.field hname (noted_scalarChars hfits hvalue))

/-! ## Texts that say statements -/

/-- A text that stands for these statements wherever it is followed by others, and does not start with a byte order
mark. -/
structure Says (text : List Char) (ss : List Statement) : Prop where
  unmarked : text.head? ≠ some '\uFEFF'
  reads (rest : List Char) (fuel : Nat) (hfuel : (text ++ rest).length < fuel) :
    ∃ spare, rest.length < spare ∧ statements? fuel (text ++ rest) = (statements? spare rest).map (ss ++ ·)

theorem Says.nil : Says [] [] where
  unmarked := nofun
  reads _ fuel hfuel := ⟨fuel, hfuel, by simp⟩

theorem Says.append {first second : List Char} {ss ss' : List Statement} (h : Says first ss) (h' : Says second ss') :
    Says (first ++ second) (ss ++ ss') where
  unmarked := by
    cases first with
    | nil => exact h'.unmarked
    | cons c cs => exact h.unmarked
  reads rest fuel hfuel := by
    rw [List.append_assoc] at hfuel ⊢
    obtain ⟨spare, hspare, hfirst⟩ := h.reads _ fuel hfuel
    obtain ⟨spare', hspare', hsecond⟩ := h'.reads _ spare hspare
    refine ⟨spare', hspare', ?_⟩
    rw [hfirst, hsecond, Option.map_map]
    congr 1
    funext others
    exact (List.append_assoc _ _ _).symm

/-- One line: after it, one line less is to be read. -/
theorem Says.of_line {line : List Char} {c : Char} {ss : List Statement} (hhead : line.head? = some c)
    (hmark : c ≠ '\uFEFF')
    (h : ∀ rest fuel, statements? (fuel + 1) (line ++ rest) = (statements? fuel rest).map (ss ++ ·)) :
    Says line ss where
  unmarked := fun hline => hmark (Option.some.inj (hhead.symm.trans hline))
  reads rest fuel hfuel := by
    obtain ⟨fuel, rfl⟩ := Nat.exists_eq_add_one_of_ne_zero (Nat.ne_zero_of_lt hfuel)
    have hpos : 0 < line.length := List.length_pos_iff.2 fun hnil => by rw [hnil] at hhead; cases hhead
    rw [List.length_append] at hfuel
    exact ⟨fuel, by omega, h rest fuel⟩

/-- A whole text says its statements. -/
theorem Says.statements?_eq {text : List Char} {ss : List Statement} (h : Says text ss) :
    statements? (text.length + 1) text = some ss := by
  obtain ⟨spare, hspare, htext⟩ := h.reads [] (text.length + 1) (by simp)
  obtain ⟨spare, rfl⟩ := Nat.exists_eq_add_one_of_ne_zero (Nat.ne_zero_of_lt hspare)
  rw [List.append_nil] at htext
  rw [htext]
  simp [statements?, skipSpaces]

theorem says_newline : Says ['\n'] [] :=
  .of_line rfl (by decide) fun rest fuel => by
    rw [List.singleton_append, statements?, skipSpaces_cons (by decide)]
    simp

/-! ## Lines of a document -/

/-- A line that starts with a name without quotes. -/
theorem statements?_entry {name : String} (hname : isBare name = true) {body rest : List Char} {s : Statement}
    (hentry : entry? (name.toList ++ body) = some (s, rest)) (fuel : Nat) :
    statements? (fuel + 1) (name.toList ++ body) = (statements? fuel rest).map ([s] ++ ·) := by
  obtain ⟨c, cs, htext, hc⟩ := exists_cons_of_isBare hname
  rw [htext, List.cons_append] at hentry ⊢
  have hchar : ∀ {d : Char} {tail : List Char}, isBareChar d = false → c :: (cs ++ body) ≠ d :: tail := by
    intro d tail hd heq
    exact ne_of_test hc hd (List.head_eq_of_cons_eq heq)
  rw [statements?, skipSpaces_cons (isSpace_of_isBareChar hc)]
  split
  · rename_i heq; cases heq
  · rename_i heq; exact absurd heq (hchar (by decide))
  · rename_i heq; exact absurd heq (hchar (by decide))
  · rename_i heq; exact absurd heq (hchar (by decide))
  · rename_i heq; exact absurd heq (hchar (by decide))
  · rw [hentry, Option.map_eq_bind]
    rfl

theorem name?_assigned {name : String} (hname : isBare name = true) (rest : List Char) :
    name? (name.toList ++ ' ' :: '=' :: rest) = some ([], name, '=' :: rest) :=
  name?_bare hname (fun c hc => by cases hc; decide) (fun h => absurd (Option.some.inj h) (by decide))

/-- A line that puts a value under a name. -/
theorem says_assigned {name : String} (hname : isBare name = true) {chars : List Char} {v : Value}
    (hskip : ∀ rest, skipSpaces (chars ++ rest) = chars ++ rest)
    (hvalue : ∀ rest fuel, value? maxDepth (fuel + 2) (chars ++ '\n' :: rest) = some (v, '\n' :: rest)) :
    Says (name.toList ++ [' ', '=', ' '] ++ chars ++ ['\n']) [.entry [] name v] := by
  obtain ⟨c, cs, htext, hc⟩ := exists_cons_of_isBare hname
  have hmark : c ≠ '\uFEFF' := ne_of_test hc (by decide)
  refine .of_line (by rw [htext]; rfl) hmark fun rest fuel => ?_
  have hline : name.toList ++ [' ', '=', ' '] ++ chars ++ ['\n'] ++ rest =
      name.toList ++ ' ' :: '=' :: ' ' :: (chars ++ '\n' :: rest) := by
    simp
  have hspace : skipSpaces (' ' :: (chars ++ '\n' :: rest)) = chars ++ '\n' :: rest := hskip _
  have hentry : entry? (name.toList ++ ' ' :: '=' :: ' ' :: (chars ++ '\n' :: rest)) =
      some (.entry [] name v, rest) := by
    rw [ entry?, name?_assigned hname]
    change Option.bind (value? maxDepth (2 * _ + 2) (skipSpaces (' ' :: _))) _ = _
    rw [hspace, hvalue]
    rfl
  rw [hline, statements?_entry hname hentry]

/-- The line for a list without records. -/
theorem says_emptyList {name : String} (hname : isBare name = true) :
    Says (name.toList ++ [' ', '=', ' '] ++ ['[', ']'] ++ ['\n']) [.entry [] name (.list [])] := by
  refine says_assigned hname (fun rest => skipSpaces_cons (by decide) _) fun rest fuel => ?_
  have hblank : skipBlank (']' :: '\n' :: rest) = ']' :: '\n' :: rest := rfl
  rw [List.cons_append, List.singleton_append, value?.eq_4, if_neg (by decide), hblank, items?]
  rfl

/-- The header of a record. -/
theorem says_header {name : String} (hname : isBare name = true) :
    Says (['[', '['] ++ name.toList ++ [']', ']'] ++ ['\n']) [.header .repeated [] name] := by
  refine .of_line rfl (by decide) fun rest fuel => ?_
  have hline : ['[', '['] ++ name.toList ++ [']', ']'] ++ ['\n'] ++ rest =
      '[' :: '[' :: (name.toList ++ ']' :: ']' :: '\n' :: rest) := by
    simp
  have hread : name? (name.toList ++ ']' :: ']' :: '\n' :: rest) = some ([], name, ']' :: ']' :: '\n' :: rest) :=
    name?_bare hname (fun c hc => by cases hc; decide) (fun h => absurd (Option.some.inj h) (by decide))
  have hheader : header? ('[' :: '[' :: (name.toList ++ ']' :: ']' :: '\n' :: rest)) =
      some (.header .repeated [] name, rest) := by
    rw [header?, hread]
    rfl
  rw [hline, statements?, skipSpaces_cons (by decide)]
  change Option.bind (header? ('[' :: '[' :: _)) _ = _
  rw [hheader, Option.map_eq_bind]
  rfl

/-! ## Clauses -/

/-- What the reader makes of a clause. -/
def Clause.statement : Clause → Statement
  | .emptyList name => .entry [] name (.list [])
  | .header name => .header .repeated [] name
  | .field name value => .entry [] name value.value

/-- A line is read as what it states. -/
theorem says_of_stated {c : Clause} {line : List Char} (h : Stated c line) :
    Says (line ++ ['\n']) [c.statement] := by
  cases h with
  | emptyList hname =>
    have hspoken := says_emptyList hname
    rwa [List.append_assoc _ [' ', '=', ' ']] at hspoken
  | header hname => exact says_header hname
  | field hname hnoted =>
    exact says_assigned hname (skipSpaces_of_noted hnoted) fun rest fuel =>
      value?_of_noted hnoted maxDepth (fuel + 1)

/-- A text is read as what its lines state. -/
theorem says_of_layout {clauses : List Clause} {text : List Char} (h : Layout clauses text) :
    Says text (clauses.map Clause.statement) := by
  induction h with
  | nil => exact .nil
  | blank _ ih => exact says_newline.append ih
  | line hline _ ih =>
    have htext := (says_of_stated hline).append ih
    rwa [List.append_assoc] at htext

end Router.Toml
