import Mathlib.Data.List.TakeWhile
import Router.Proofs.Text.Numeral
import Router.Proofs.Toml.Layout

/-!
# Strings written and read

What is written for a string stands for it, whatever its characters (`quoted_stringChars`): on one line every character
stands as itself or as an escape (`oneLine_escape`), between three quotes runs of at most two quotes stay as they are
(`lines_escape`, `lines_bare`). And every text that stands for a string is read as that string, if no quote follows
(`string?_of_quoted`): between three quotes a run of at most two goes on (`linesBody_quotes`), and the quotes at the end
are one run with the closing ones (`linesBody_of_lines`).
-/

namespace Router.Toml

open Router.Text

/-- Where the characters at the front of a text end. -/
theorem span_append {p : Char → Bool} {front rest : List Char} (hfront : ∀ c ∈ front, p c = true)
    (hrest : ∀ c ∈ rest.head?, p c = false) :
    (front ++ rest).takeWhile p = front ∧ (front ++ rest).dropWhile p = rest := by
  have hstop : rest.takeWhile p = [] ∧ rest.dropWhile p = rest := by
    cases rest with
    | nil => exact ⟨rfl, rfl⟩
    | cons c rest =>
      have hc := ne_true_of_eq_false (hrest c rfl)
      exact ⟨List.takeWhile_cons_of_neg hc, List.dropWhile_cons_of_neg hc⟩
  rw [List.takeWhile_append_of_pos hfront, List.dropWhile_append_of_pos hfront, hstop.1, hstop.2, List.append_nil]
  exact ⟨rfl, rfl⟩

/-! ## Characters -/

/-- A test tells characters apart. -/
theorem ne_of_test {p : Char → Bool} {c d : Char} (hc : p c = true) (hd : p d = false) : c ≠ d := by
  rintro rfl
  rw [hc] at hd
  cases hd

theorem toNat_ne {c d : Char} (h : c ≠ d) : c.toNat ≠ d.toNat :=
  fun hn => h (Char.toNat_inj.1 hn)

theorem toNat_of_not_isControl {c : Char} (hcontrol : isControl c = false) (hline : c ≠ '\n') (htab : c ≠ '\t') :
    0x20 ≤ c.toNat ∧ c.toNat ≠ 0x7F := by
  simpa [isControl, hline, htab] using hcontrol

/-- A character that needs no escape. -/
theorem isBasicChar_of_ne {c : Char} (hcontrol : isControl c = false) (hquote : c ≠ '"') (hslash : c ≠ '\\')
    (hline : c ≠ '\n') (htab : c ≠ '\t') : isBasicChar c = true := by
  have hvisible := toNat_of_not_isControl hcontrol hline htab
  have hquote : c.toNat ≠ 0x22 := toNat_ne hquote
  have hslash : c.toNat ≠ 0x5C := toNat_ne hslash
  by_cases hspace : c = ' ' ∨ c = '!'
  · rcases hspace with rfl | rfl <;> decide
  · rw [not_or] at hspace
    have hspace : c.toNat ≠ 0x20 ∧ c.toNat ≠ 0x21 := ⟨toNat_ne hspace.1, toNat_ne hspace.2⟩
    simp only [isBasicChar, isNonAscii, Bool.or_eq_true, Bool.and_eq_true, decide_eq_true_eq]
    omega

/-- A character that stands for itself between single quotes. -/
theorem isLiteralChar_of_ne {c : Char} (hcontrol : isControl c = false) (hquote : c ≠ '\'') (hline : c ≠ '\n') :
    isLiteralChar c = true := by
  have hquote : c.toNat ≠ 0x27 := toNat_ne hquote
  by_cases htab : c = '\t'
  · subst htab
    decide
  · have hvisible := toNat_of_not_isControl hcontrol hline htab
    simp only [isLiteralChar, isNonAscii, Bool.or_eq_true, Bool.and_eq_true, decide_eq_true_eq]
    omega

/-! ## Writing -/

theorem isControl_lt {c : Char} (h : isControl c = true) : c.toNat < 128 := by
  simp only [isControl, Bool.or_eq_true, Bool.and_eq_true, decide_eq_true_eq] at h
  omega

/-- A character below 128 by its number in four hexadecimal digits. -/
theorem stands_hexDigits {c : Char} (h : c.toNat < 128) :
    Stands c ['\\', 'u', '0', '0', hexDigit (c.toNat / 16), hexDigit (c.toNat % 16)] := by
  have hread : ∀ n < 128, Radix.read? 16 ['0', '0', hexDigit (n / 16), hexDigit (n % 16)] = some n := by decide
  exact .number rfl (hread _ h)

/-- A character is written as a double quote that may stand, as a line feed that may stand, or as it can stand in every
basic string. -/
theorem escape_cons (lines : Bool) (run : Nat) (c : Char) (cs : List Char) :
    (lines = true ∧ c = '"' ∧ run < 2 ∧ escape lines run (c :: cs) = c :: escape lines (run + 1) cs) ∨
      (lines = true ∧ c = '\n' ∧ escape lines run (c :: cs) = c :: escape lines 0 cs) ∨
      ∃ piece, Stands c piece ∧ escape lines run (c :: cs) = piece ++ escape lines 0 cs := by
  rw [escape]
  split_ifs with hquote hrun hslash hline hlines htab hreturn hback hform hcontrol
  · exact .inl ⟨hrun.1, hquote, hrun.2, rfl⟩
  · subst hquote
    exact .inr (.inr ⟨_, .letter (by decide), rfl⟩)
  · subst hslash
    exact .inr (.inr ⟨_, .letter (by decide), rfl⟩)
  · exact .inr (.inl ⟨hlines, hline, rfl⟩)
  · subst hline
    exact .inr (.inr ⟨_, .letter (l := 'n') (by decide), rfl⟩)
  · subst htab
    exact .inr (.inr ⟨_, .letter (l := 't') (by decide), rfl⟩)
  · subst hreturn
    exact .inr (.inr ⟨_, .letter (l := 'r') (by decide), rfl⟩)
  · subst hback
    exact .inr (.inr ⟨_, .letter (l := 'b') (by decide), rfl⟩)
  · subst hform
    exact .inr (.inr ⟨_, .letter (l := 'f') (by decide), rfl⟩)
  · exact .inr (.inr ⟨_, stands_hexDigits (isControl_lt hcontrol), rfl⟩)
  · have hbasic := isBasicChar_of_ne (eq_false_of_ne_true hcontrol) hquote hslash hline htab
    exact .inr (.inr ⟨[c], .itself hbasic, rfl⟩)

/-- Between double quotes on one line, whatever the text. -/
theorem oneLine_escape (cs : List Char) : OneLine cs (escape false 0 cs) := by
  induction cs with
  | nil => exact .nil
  | cons c cs ih =>
    obtain ⟨hlines, -⟩ | ⟨hlines, -⟩ | ⟨piece, hpiece, hescape⟩ := escape_cons false 0 c cs
    · cases hlines
    · cases hlines
    · rw [hescape]
      exact .cons hpiece ih

/-- Between three double quotes, whatever the text. -/
theorem lines_escape (run : Nat) (cs : List Char) : Lines '"' Stands run cs (escape true run cs) := by
  induction cs generalizing run with
  | nil => exact .nil
  | cons c cs ih =>
    obtain ⟨-, rfl, hrun, hescape⟩ | ⟨-, rfl, hescape⟩ | ⟨piece, hpiece, hescape⟩ := escape_cons true run c cs
    · rw [hescape]
      exact .quote hrun (ih _)
    · rw [hescape]
      exact .newline (ih 0)
    · rw [hescape]
      exact .piece hpiece (ih 0)

theorem le_longestRunFrom (c : Char) (run longest : Nat) (cs : List Char) :
    longest ≤ longestRunFrom c run longest cs := by
  induction cs generalizing run longest with
  | nil => exact Nat.le_refl _
  | cons d cs ih =>
    rw [longestRunFrom]
    split
    · exact Nat.le_trans (Nat.le_max_left _ _) (ih _ _)
    · exact ih _ _

/-- Between three single quotes, if there are at most two of them in a row. -/
theorem lines_bare {run longest : Nat} {cs : List Char} (hcontrol : ∀ c ∈ cs, isControl c = false)
    (h : longestRunFrom '\'' run longest cs ≤ 2) : Lines '\'' StandsBare run cs cs := by
  induction cs generalizing run longest with
  | nil => exact .nil
  | cons c cs ih =>
    obtain ⟨hc, hcs⟩ := List.forall_mem_cons.1 hcontrol
    rw [longestRunFrom] at h
    split at h
    · rename_i hquote
      have hless : run + 1 ≤ 2 := Nat.le_trans (Nat.le_max_right _ _) (Nat.le_trans (le_longestRunFrom _ _ _ _) h)
      rw [hquote]
      exact .quote hless (ih hcs h)
    · rename_i hquote
      by_cases hline : c = '\n'
      · subst hline
        exact .newline (ih hcs h)
      · exact .piece (.itself (isLiteralChar_of_ne hc hquote hline)) (ih hcs h)

section Quoted

variable {cs text : List Char} {quote : Char} {Piece : Char → List Char → Prop}

/-- No piece starts with a line feed or a carriage return. -/
theorem Fence.exists_cons (hfence : Fence quote Piece) {c : Char} {piece : List Char} (h : Piece c piece) :
    ∃ d rest, piece = d :: rest ∧ d ≠ quote ∧ d ≠ '\n' ∧ d ≠ '\r' := by
  cases hfence with
  | basic =>
    cases h with
    | itself hbasic =>
      exact ⟨c, [], rfl, ne_of_test hbasic (by decide), ne_of_test hbasic (by decide), ne_of_test hbasic (by decide)⟩
    | letter | number => exact ⟨_, _, rfl, by decide, by decide, by decide⟩
  | literal =>
    cases h with
    | itself hliteral =>
      exact ⟨c, [], rfl, ne_of_test hliteral (by decide), ne_of_test hliteral (by decide),
        ne_of_test hliteral (by decide)⟩

theorem Fence.quote_ne (hfence : Fence quote Piece) : quote ≠ '\n' ∧ quote ≠ '\r' := by
  cases hfence <;> decide

/-- A text starts with a line feed only if its string does. -/
theorem Lines.head?_ne {run : Nat} (hfence : Fence quote Piece) (h : Lines quote Piece run cs text)
    (hcs : '\n' ∉ cs) : text.head? ≠ some '\n' := by
  cases h with
  | nil => exact nofun
  | quote => exact fun hhead => hfence.quote_ne.1 (Option.some.inj hhead)
  | newline => exact absurd List.mem_cons_self hcs
  | piece hpiece =>
    obtain ⟨d, rest, rfl, -, hd, -⟩ := hfence.exists_cons hpiece
    exact fun hhead => hd (Option.some.inj hhead)

theorem quoted_betweenThree (hfence : Fence quote Piece) (h : Lines quote Piece 0 cs text) :
    Quoted cs (betweenThree quote cs text) := by
  have hfenced : betweenThree quote cs text = fenced quote ((if '\n' ∈ cs then ['\n'] else []) ++ text) := by
    simp only [betweenThree, fenced, List.append_assoc]
    rfl
  rw [hfenced]
  split
  · exact .linesBelow hfence h
  · rename_i hcs
    exact .lines hfence h (h.head?_ne hfence hcs)

/-- What is written for a string stands for it. -/
theorem quoted_stringChars (cs : List Char) : Quoted cs (stringChars cs) := by
  have hcontrol : (!cs.any isControl) = true → ∀ c ∈ cs, isControl c = false := by
    simp
  have honeLine : Quoted cs (onOneLine cs) := by
    rw [onOneLine, List.cons_append]
    exact .basic (oneLine_escape cs)
  have honLines : Quoted cs (onLines cs) := quoted_betweenThree .basic (lines_escape 0 cs)
  simp only [stringChars, Bool.and_eq_true, decide_eq_true_eq]
  split_ifs with hplain hliteral hlines hlong hline
  · exact honeLine
  · simp only [Bool.not_eq_true', List.any_eq_false, List.contains_eq_mem, decide_eq_false_iff_not] at hliteral
    obtain ⟨⟨hcontrol, hline⟩, hquote⟩ := hliteral
    rw [List.cons_append]
    refine .literal fun c hc => ?_
    have hne : c ≠ '\'' ∧ c ≠ '\n' := ⟨fun h => hquote (h ▸ hc), fun h => hline (h ▸ hc)⟩
    exact isLiteralChar_of_ne (eq_false_of_ne_true (hcontrol c hc)) hne.1 hne.2
  · exact honLines
  · exact quoted_betweenThree .literal (lines_bare (hcontrol hlong.1) hlong.2)
  · exact honLines
  · exact honeLine

end Quoted

/-! ## Reading -/

/-! ### Escapes -/

theorem escape?_of_letter {l c : Char} (h : (l, c) ∈ escapeLetters) (rest : List Char) :
    escape? (l :: rest) = some (c, rest) := by
  have hall : ∀ e ∈ escapeLetters, escape? (e.1 :: rest) = some (e.2, rest) := by
    simp only [escapeLetters, List.forall_mem_cons]
    exact ⟨rfl, rfl, rfl, rfl, rfl, rfl, rfl, List.forall_mem_nil _⟩
  exact hall (l, c) h

theorem scalar?_toNat (c : Char) : scalar? c.toNat = some c := by
  have hvalid : c.toNat < 0xD800 ∨ (0xDFFF < c.toNat ∧ c.toNat < 0x110000) := c.valid
  rw [scalar?, if_pos hvalid, Char.ofNat_toNat]

theorem escape?_of_number {c : Char} {digits : List Char} (hlength : digits.length = 4)
    (h : Radix.read? 16 digits = some c.toNat) (rest : List Char) :
    escape? ('u' :: digits ++ rest) = some (c, rest) := by
  have htake : (digits ++ rest).take 4 = digits := hlength ▸ List.take_left
  have hdrop : (digits ++ rest).drop 4 = rest := hlength ▸ List.drop_left
  have hcode : escape? ('u' :: digits ++ rest) = codePoint? 4 (digits ++ rest) := rfl
  rw [hcode, codePoint?, htake, hdrop, if_pos hlength]
  simp only [h, scalar?_toNat, Option.bind_eq_bind, Option.bind_some]
  rfl

/-- A character stands as itself or as an escape. -/
theorem Stands.itself_or_escaped {c : Char} {piece : List Char} (h : Stands c piece) :
    (isBasicChar c = true ∧ piece = [c]) ∨
      ∃ code, piece = '\\' :: code ∧ ∀ rest, escape? (code ++ rest) = some (c, rest) := by
  cases h with
  | itself hbasic => exact .inl ⟨hbasic, rfl⟩
  | letter hletter => exact .inr ⟨_, rfl, escape?_of_letter hletter⟩
  | number hlength hread => exact .inr ⟨_, rfl, escape?_of_number hlength hread⟩

theorem newline?_cons {c : Char} (hline : c ≠ '\n') (hreturn : c ≠ '\r') (rest : List Char) :
    newline? (c :: rest) = none := by
  unfold newline?
  split
  · rename_i heq
    exact absurd (List.head_eq_of_cons_eq heq) hline
  · rename_i heq
    exact absurd (List.head_eq_of_cons_eq heq) hreturn
  · rfl

variable {rest after : List Char}

theorem continuation?_of_escape? {c : Char} (h : escape? rest = some (c, after)) : continuation? rest = none := by
  unfold escape? at h
  split at h <;> first | rfl | cases h

/-! ### One line -/

theorem basicBody_of_stands {c : Char} {piece cs : List Char} (h : Stands c piece)
    (hrest : basicBody rest = some (cs, after)) : basicBody (piece ++ rest) = some (c :: cs, after) := by
  obtain ⟨hbasic, rfl⟩ | ⟨code, rfl, hcode⟩ := h.itself_or_escaped
  · have hquote : c ≠ '"' := ne_of_test hbasic (by decide)
    have hslash : c ≠ '\\' := ne_of_test hbasic (by decide)
    rw [List.singleton_append, basicBody.eq_4 _ _ hquote hslash, if_pos hbasic, hrest, Option.map_some]
  · rw [List.cons_append, basicBody]
    split
    · rename_i hnone
      rw [hcode] at hnone
      cases hnone
    · rename_i hsome
      rw [hcode] at hsome
      cases hsome
      rw [hrest, Option.map_some]

theorem basicBody_of_oneLine {cs text : List Char} (h : OneLine cs text) (rest : List Char) :
    basicBody (text ++ '"' :: rest) = some (cs, rest) := by
  induction h with
  | nil => exact basicBody.eq_2 rest
  | cons hpiece _ ih =>
    rw [List.append_assoc]
    exact basicBody_of_stands hpiece ih

theorem literalBody_append {cs : List Char} (h : ∀ c ∈ cs, isLiteralChar c = true) (rest : List Char) :
    literalBody (cs ++ '\'' :: rest) = some (cs, rest) := by
  induction cs with
  | nil => rfl
  | cons c cs ih =>
    obtain ⟨hliteral, hcs⟩ := List.forall_mem_cons.1 h
    rw [List.cons_append, literalBody, if_pos hliteral, ih hcs, Option.map_some]
    exact ne_of_test hliteral (by decide)

/-! ### Several lines -/

variable {quote : Char} {Piece : Char → List Char → Prop} {plain : Char → Bool} {escapes : Bool}

/-- A reader of what stands between three quotes: it takes a piece for its character. -/
structure ReadsPieces (quote : Char) (Piece : Char → List Char → Prop) (plain : Char → Bool) (escapes : Bool) :
    Prop where
  fence : Fence quote Piece
  piece {c : Char} {piece : List Char} (hpiece : Piece c piece) {fuel : Nat} {rest cs after : List Char}
    (h : linesBody quote plain escapes fuel rest = some (cs, after)) :
    linesBody quote plain escapes (fuel + 1) (piece ++ rest) = some (c :: cs, after)

theorem linesBody_plain {c : Char} (hplain : plain c = true) (hquote : c ≠ quote) (hslash : escapes = true → c ≠ '\\')
    (hline : c ≠ '\n') (hreturn : c ≠ '\r') {fuel : Nat} {cs : List Char}
    (h : linesBody quote plain escapes fuel rest = some (cs, after)) :
    linesBody quote plain escapes (fuel + 1) ([c] ++ rest) = some (c :: cs, after) := by
  rw [List.singleton_append, linesBody, if_neg hquote, if_neg fun hc => hslash hc.1 hc.2, newline?_cons hline hreturn]
  dsimp only
  rw [if_pos hplain, h, Option.map_some]

theorem linesBody_newline (hquote : quote ≠ '\n') {fuel : Nat} {cs : List Char}
    (h : linesBody quote plain escapes fuel rest = some (cs, after)) :
    linesBody quote plain escapes (fuel + 1) ('\n' :: rest) = some ('\n' :: cs, after) := by
  have hnewline : newline? ('\n' :: rest) = some rest := rfl
  rw [linesBody, if_neg hquote.symm, if_neg fun hc => absurd hc.2 (by decide), hnewline]
  dsimp only
  rw [h, Option.map_some]

theorem readsPieces_basic : ReadsPieces '"' Stands isBasicChar true where
  fence := .basic
  piece {c piece} hpiece fuel rest cs after h := by
    obtain ⟨hbasic, rfl⟩ | ⟨code, rfl, hcode⟩ := hpiece.itself_or_escaped
    · have hne : ∀ {d}, isBasicChar d = false → c ≠ d := ne_of_test hbasic
      exact linesBody_plain hbasic (hne (by decide)) (fun _ => hne (by decide)) (hne (by decide)) (hne (by decide)) h
    · rw [List.cons_append, linesBody, if_neg (by decide), if_pos ⟨rfl, rfl⟩, continuation?_of_escape? (hcode _)]
      dsimp only
      rw [hcode]
      dsimp only
      rw [h, Option.map_some]

theorem readsPieces_literal : ReadsPieces '\'' StandsBare isLiteralChar false where
  fence := .literal
  piece {c piece} hpiece fuel rest cs after h := by
    cases hpiece with
    | itself hliteral =>
      have hne : ∀ {d}, isLiteralChar d = false → c ≠ d := ne_of_test hliteral
      exact linesBody_plain hliteral (hne (by decide)) (fun hescapes => absurd hescapes (by decide)) (hne (by decide))
        (hne (by decide)) h

theorem quotes_append (run : Nat) (h : rest.head? ≠ some quote) :
    quotes quote (List.replicate run quote ++ rest) = (run, rest) := by
  have hfront : ∀ c ∈ List.replicate run quote, decide (c = quote) = true := fun c hc =>
    decide_eq_true (List.eq_of_mem_replicate hc)
  have hrest : ∀ c ∈ rest.head?, decide (c = quote) = false := fun c hc => decide_eq_false fun hcq => h (hcq ▸ hc)
  rw [quotes, (span_append hfront hrest).1, (span_append hfront hrest).2, List.length_replicate]

theorem linesBody_replicate {fuel run : Nat} (hrun : run ≠ 0) (h : rest.head? ≠ some quote) :
    linesBody quote plain escapes (fuel + 1) (List.replicate run quote ++ rest) =
      match closing? run with
      | some (before, extra) => some (List.replicate before quote, List.replicate extra quote ++ rest)
      | none =>
        (linesBody quote plain escapes fuel rest).map fun (s, after) => (List.replicate run quote ++ s, after) := by
  obtain ⟨n, rfl⟩ := Nat.exists_eq_add_one_of_ne_zero hrun
  have hquotes := quotes_append (n + 1) h
  rw [List.replicate_succ, List.cons_append] at hquotes
  rw [List.replicate_succ, List.cons_append, linesBody, if_pos rfl, hquotes]
  rfl

/-- Up to two quotes do not close a text. -/
theorem linesBody_quotes {fuel run : Nat} {cs : List Char} (hrun : run < 3) (hhead : rest.head? ≠ some quote)
    (h : ∀ spare, fuel ≤ spare + run → linesBody quote plain escapes spare rest = some (cs, after)) :
    linesBody quote plain escapes fuel (List.replicate run quote ++ rest) =
      some (List.replicate run quote ++ cs, after) := by
  rcases Nat.eq_zero_or_pos run with rfl | hpos
  · exact h fuel (Nat.le_refl _)
  · cases fuel with
    | zero => exact absurd (h 0 (Nat.zero_le _)) (by simp [linesBody])
    | succ fuel =>
      rw [linesBody_replicate hpos.ne' hhead, closing?, if_pos hrun, h fuel (by omega)]
      rfl

/-- A text between three quotes, with the `run` quotes before it. The induction is on how the text is made up; quotes
are only counted until something else or the end follows them. -/
theorem linesBody_of_lines (hreads : ReadsPieces quote Piece plain escapes) {run : Nat} {cs text : List Char}
    (h : Lines quote Piece run cs text) (hrun : run < 3) (hrest : rest.head? ≠ some quote) {fuel : Nat}
    (hfuel : run + text.length < fuel) :
    linesBody quote plain escapes fuel (List.replicate run quote ++ (text ++ (List.replicate 3 quote ++ rest))) =
      some (List.replicate run quote ++ cs, rest) := by
  induction h generalizing fuel with
  | nil =>
    obtain ⟨fuel, rfl⟩ := Nat.exists_eq_add_one_of_ne_zero (Nat.ne_zero_of_lt hfuel)
    rename_i run
    -- The quotes that still belong to the string and the closing ones are one run.
    have hclosing : closing? (run + 3) = some (run, 0) := by
      simp only [closing?, Nat.add_sub_cancel, Nat.min_eq_left (Nat.le_of_lt_succ hrun), Nat.sub_self]
      exact if_neg (by omega)
    rw [List.nil_append, ← List.append_assoc, List.replicate_append_replicate, linesBody_replicate (by omega) hrest,
      hclosing, List.append_nil]
    rfl
  | quote hless _ ih =>
    rename_i run cs text _
    have hmove : ∀ tail : List Char,
        List.replicate run quote ++ quote :: tail = List.replicate (run + 1) quote ++ tail := fun tail => by
      rw [List.replicate_succ', List.append_assoc, List.singleton_append]
    rw [List.cons_append, hmove, hmove]
    exact ih (by omega) (by rw [List.length_cons] at hfuel; omega)
  | newline _ ih =>
    rename_i run cs text _
    have hne := hreads.fence.quote_ne.1
    rw [List.length_cons] at hfuel
    refine linesBody_quotes hrun (fun hhead => hne (Option.some.inj hhead).symm) fun spare hspare => ?_
    obtain ⟨spare, rfl⟩ := Nat.exists_eq_add_one_of_ne_zero (n := spare) (by omega)
    exact linesBody_newline hne (ih (by omega) (by omega))
  | piece hpiece _ ih =>
    rename_i run c cs piece text _
    obtain ⟨d, others, rfl, hd, -⟩ := hreads.fence.exists_cons hpiece
    rw [List.length_append, List.length_cons] at hfuel
    refine linesBody_quotes hrun (fun hhead => hd (Option.some.inj hhead)) fun spare hspare => ?_
    obtain ⟨spare, rfl⟩ := Nat.exists_eq_add_one_of_ne_zero (n := spare) (by omega)
    rw [List.append_assoc]
    exact hreads.piece hpiece (ih (by omega) (by omega))

/-! ### Strings -/

/-- A text that does not start with a line feed does not start with a line end, whatever follows the closing quotes. -/
theorem newline?_of_lines (hfence : Fence quote Piece) {run : Nat} {cs text : List Char}
    (h : Lines quote Piece run cs text) (hhead : text.head? ≠ some '\n') (rest : List Char) :
    newline? (text ++ (List.replicate 3 quote ++ rest)) = none := by
  obtain ⟨hline, hreturn⟩ := hfence.quote_ne
  cases h with
  | nil => exact newline?_cons hline hreturn _
  | quote => exact newline?_cons hline hreturn _
  | newline => exact absurd rfl hhead
  | piece hpiece =>
    obtain ⟨d, others, rfl, -, hline, hreturn⟩ := hfence.exists_cons hpiece
    exact newline?_cons hline hreturn _

/-- A text after three quotes is read, whether or not a line feed stands before it. -/
theorem linesBody_of_skipNewline (hreads : ReadsPieces quote Piece plain escapes) {cs text body : List Char}
    (h : Lines quote Piece 0 cs text) (hrest : rest.head? ≠ some quote)
    (hskip : skipNewline body = text ++ (List.replicate 3 quote ++ rest)) (hlength : text.length ≤ body.length) :
    linesBody quote plain escapes (body.length + 1) (skipNewline body) = some (cs, rest) := by
  rw [hskip]
  exact linesBody_of_lines hreads h (by decide) hrest (by omega)

theorem string?_fenced (hfence : Fence quote Piece) {cs text body : List Char} (h : Lines quote Piece 0 cs text)
    (hrest : rest.head? ≠ some quote) (hskip : skipNewline body = text ++ (List.replicate 3 quote ++ rest))
    (hlength : text.length ≤ body.length) : string? (List.replicate 3 quote ++ body) = some (cs, rest) := by
  cases hfence with
  | basic => exact linesBody_of_skipNewline readsPieces_basic h hrest hskip hlength
  | literal => exact linesBody_of_skipNewline readsPieces_literal h hrest hskip hlength

theorem string?_of_oneLine {cs text : List Char} (h : OneLine cs text) (hrest : rest.head? ≠ some '"') :
    string? ('"' :: (text ++ '"' :: rest)) = some (cs, rest) := by
  -- Two quotes at the front are the whole of an empty string, and no third one follows.
  have hthree : ∀ tail, text ++ '"' :: rest ≠ '"' :: '"' :: tail := by
    intro tail heq
    cases h with
    | nil => exact hrest (congrArg List.head? (List.tail_eq_of_cons_eq heq))
    | cons hpiece =>
      obtain ⟨d, others, rfl, hd, -⟩ := Fence.basic.exists_cons hpiece
      exact hd (List.head_eq_of_cons_eq heq)
  rw [string?.eq_3 _ hthree, basicBody_of_oneLine h]

theorem string?_of_literal {cs : List Char} (h : ∀ c ∈ cs, isLiteralChar c = true) (hrest : rest.head? ≠ some '\'') :
    string? ('\'' :: (cs ++ '\'' :: rest)) = some (cs, rest) := by
  have hthree : ∀ tail, cs ++ '\'' :: rest ≠ '\'' :: '\'' :: tail := by
    intro tail heq
    cases cs with
    | nil => exact hrest (congrArg List.head? (List.tail_eq_of_cons_eq heq))
    | cons c cs =>
      have hc := h c List.mem_cons_self
      rw [List.head_eq_of_cons_eq heq] at hc
      exact absurd hc (by decide)
  rw [string?.eq_4 _ hthree, literalBody_append h]

/-- A text that stands for a string is read as that string. -/
theorem string?_of_quoted {cs text : List Char} (h : Quoted cs text) (hdouble : rest.head? ≠ some '"')
    (hsingle : rest.head? ≠ some '\'') : string? (text ++ rest) = some (cs, rest) := by
  have hend : ∀ {quote Piece}, Fence quote Piece → rest.head? ≠ some quote := fun hfence => by
    cases hfence with
    | basic => exact hdouble
    | literal => exact hsingle
  cases h with
  | basic honeLine =>
    rw [List.cons_append, List.append_assoc, List.singleton_append]
    exact string?_of_oneLine honeLine hdouble
  | literal hliteral =>
    rw [List.cons_append, List.append_assoc, List.singleton_append]
    exact string?_of_literal hliteral hsingle
  | lines hfence hlines hhead =>
    rw [fenced, List.append_assoc, List.append_assoc]
    refine string?_fenced hfence hlines (hend hfence) ?_ (by simp)
    rw [skipNewline, newline?_of_lines hfence hlines hhead, Option.getD_none]
  | linesBelow hfence hlines =>
    rw [fenced, List.append_assoc, List.append_assoc]
    exact string?_fenced hfence hlines (hend hfence) rfl (by simp; omega)

end Router.Toml
