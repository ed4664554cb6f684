import Router.Text.Notation
import Router.Toml.Scan

/-!
# Strings of TOML

Basic strings stand between double quotes and know escapes; literal strings stand between single quotes and know
none. Three quotes instead of one start a string of several lines: a line end right after them does not count, line
ends become line feeds, and up to two quotes may stand before the closing three. In a basic string of several lines a
backslash at the end of a line takes away the line end and all blanks after it.
-/

namespace Router.Toml

open Router.Text

/-- A character that stands for itself in a basic string. -/
def isBasicChar (c : Char) : Bool :=
  isSpace c || c = '!' || (0x23 ≤ c.toNat && c.toNat ≤ 0x5B) || (0x5D ≤ c.toNat && c.toNat ≤ 0x7E) || isNonAscii c

/-- A character that stands for itself in a literal string. -/
def isLiteralChar (c : Char) : Bool :=
  isSpace c || (0x20 ≤ c.toNat && c.toNat ≤ 0x26) || (0x28 ≤ c.toNat && c.toNat ≤ 0x7E) || isNonAscii c

/-! ## Escapes -/

/-- The character of a number, unless the number is that of a surrogate or too large. -/
def scalar? (n : Nat) : Option Char :=
  if n < 0xD800 ∨ (0xDFFF < n ∧ n < 0x110000) then some (Char.ofNat n) else none

/-- The character that `count` hexadecimal digits name, and the text after them. -/
def codePoint? (count : Nat) (cs : List Char) : Option (Char × List Char) :=
  if (cs.take count).length = count then do
    let n ← Radix.read? 16 (cs.take count)
    let c ← scalar? n
    return (c, cs.drop count)
  else none

/-- The character that an escape stands for, without its backslash, and the text after it. -/
def escape? : List Char → Option (Char × List Char)
  | 'b' :: rest => some ('\x08', rest)
  | 'f' :: rest => some ('\x0c', rest)
  | 'n' :: rest => some ('\n', rest)
  | 'r' :: rest => some ('\r', rest)
  | 't' :: rest => some ('\t', rest)
  | '"' :: rest => some ('"', rest)
  | '\\' :: rest => some ('\\', rest)
  | 'u' :: rest => codePoint? 4 rest
  | 'U' :: rest => codePoint? 8 rest
  | _ => none

theorem length_codePoint? {count : Nat} {cs rest : List Char} {c : Char} (h : codePoint? count cs = some (c, rest)) :
    rest.length ≤ cs.length := by
  unfold codePoint? at h
  split at h
  · cases hn : Radix.read? 16 (cs.take count) with
    | none => simp [hn] at h
    | some n =>
      cases hc : scalar? n with
      | none => simp [hn, hc] at h
      | some d =>
        simp only [hn, hc, Option.bind_eq_bind, Option.bind_some, Option.pure_def, Option.some.injEq,
          Prod.mk.injEq] at h
        rw [← h.2, List.length_drop]
        omega
  · simp at h

theorem length_escape? {cs rest : List Char} {c : Char} (h : escape? cs = some (c, rest)) :
    rest.length < cs.length := by
  unfold escape? at h
  split at h
  case h_8 => exact Nat.lt_succ_of_le (length_codePoint? h)
  case h_9 => exact Nat.lt_succ_of_le (length_codePoint? h)
  case h_10 => simp at h
  all_goals
    simp only [Option.some.injEq, Prod.mk.injEq] at h
    simp [h.2]

/-! ## One line -/

/-- The characters of a basic string up to its closing quote, and the text after that. -/
def basicBody (cs : List Char) : Option (List Char × List Char) :=
  match cs with
  | [] => none
  | '"' :: rest => some ([], rest)
  | '\\' :: rest =>
    match _h : escape? rest with
    | none => none
    | some (c, rest) => (basicBody rest).map fun (s, rest) => (c :: s, rest)
  | c :: rest => if isBasicChar c then (basicBody rest).map fun (s, rest) => (c :: s, rest) else none
termination_by cs.length
decreasing_by
  · have := length_escape? _h
    simp only [List.length_cons]
    omega
  · simp

/-- The characters of a literal string up to its closing quote, and the text after that. -/
def literalBody : List Char → Option (List Char × List Char)
  | [] => none
  | '\'' :: rest => some ([], rest)
  | c :: rest => if isLiteralChar c then (literalBody rest).map fun (s, rest) => (c :: s, rest) else none

/-! ## Several lines -/

/-- The text after a line end, if it starts with one. -/
def skipNewline (cs : List Char) : List Char :=
  (newline? cs).getD cs

/-- The quotes at the front of a text and the text after them. -/
def quotes (quote : Char) (cs : List Char) : Nat × List Char :=
  ((cs.takeWhile (· = quote)).length, cs.dropWhile (· = quote))

/-- What a run of quotes means: `none` if the string goes on, otherwise the quotes before the closing three and those
after them. At most two quotes stand before the closing three. -/
def closing? (count : Nat) : Option (Nat × Nat) :=
  if count < 3 then none else some (min (count - 3) 2, count - 3 - min (count - 3) 2)

/-- The text after the blanks and line ends that follow a backslash, if it stood at the end of a line. -/
def continuation? (cs : List Char) : Option (List Char) :=
  (newline? (skipSpaces cs)).map fun rest => skipNewlines rest.length rest

/-- The characters of a string of several lines up to its closing quotes, and the text after those. `plain` tells the
characters that stand for themselves; with `escapes`, a backslash starts an escape. -/
def linesBody (quote : Char) (plain : Char → Bool) (escapes : Bool) : (fuel : Nat) → List Char →
    Option (List Char × List Char)
  | 0, _ => none
  | _, [] => none
  | fuel + 1, c :: rest =>
    if c = quote then
      let (count, after) := quotes quote (c :: rest)
      match closing? count with
      | some (before, extra) => some (List.replicate before quote, List.replicate extra quote ++ after)
      | none =>
        (linesBody quote plain escapes fuel after).map fun (s, rest) => (List.replicate count quote ++ s, rest)
    else if escapes ∧ c = '\\' then
      match continuation? rest with
      | some after => linesBody quote plain escapes fuel after
      | none =>
        match escape? rest with
        | some (e, after) => (linesBody quote plain escapes fuel after).map fun (s, rest) => (e :: s, rest)
        | none => none
    else
      match newline? (c :: rest) with
      | some after => (linesBody quote plain escapes fuel after).map fun (s, rest) => ('\n' :: s, rest)
      | none =>
        if plain c then (linesBody quote plain escapes fuel rest).map fun (s, rest) => (c :: s, rest) else none

/-! ## Strings -/

/-- The string at the front of a text, and the text after it. -/
def string? : List Char → Option (List Char × List Char)
  | '"' :: '"' :: '"' :: rest => linesBody '"' isBasicChar true (rest.length + 1) (skipNewline rest)
  | '\'' :: '\'' :: '\'' :: rest => linesBody '\'' isLiteralChar false (rest.length + 1) (skipNewline rest)
  | '"' :: rest => basicBody rest
  | '\'' :: rest => literalBody rest
  | _ => none

/-- The string of one line at the front of a text, and the text after it. -/
def lineString? : List Char → Option (List Char × List Char)
  | '"' :: rest => basicBody rest
  | '\'' :: rest => literalBody rest
  | _ => none

end Router.Toml
