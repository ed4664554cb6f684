/-!
# Blanks, line ends and comments of TOML

Each function takes something off the front of a text and returns the rest.
-/

namespace Router.Toml

/-- A character beyond ASCII. -/
def isNonAscii (c : Char) : Bool :=
  0x80 ≤ c.toNat

/-- A blank inside a line. -/
def isSpace (c : Char) : Bool :=
  c = ' ' || c = '\t'

/-- A character that may stand in a comment: no control but the tab. -/
def isCommentChar (c : Char) : Bool :=
  c = '\t' || (0x20 ≤ c.toNat && c.toNat ≤ 0x7E) || isNonAscii c

/-- The text after blanks. -/
def skipSpaces (cs : List Char) : List Char :=
  cs.dropWhile isSpace

/-- The text after a line end: a line feed, which a carriage return may precede. -/
def newline? : List Char → Option (List Char)
  | '\n' :: rest => some rest
  | '\r' :: '\n' :: rest => some rest
  | _ => none

/-- The text after blanks and line ends; at most `fuel` line ends. -/
def skipNewlines : (fuel : Nat) → List Char → List Char
  | 0, cs => skipSpaces cs
  | fuel + 1, cs =>
    match newline? (skipSpaces cs) with
    | some rest => skipNewlines fuel rest
    | none => skipSpaces cs

/-- The text after a comment, if there is one. -/
def skipComment : List Char → List Char
  | '#' :: rest => rest.dropWhile isCommentChar
  | cs => cs

/-- The text after the end of a line: blanks, a comment, and a line end or nothing. -/
def endOfLine? (cs : List Char) : Option (List Char) :=
  match skipComment (skipSpaces cs) with
  | [] => some []
  | rest => newline? rest

/-- The text after blanks, line ends and comments; a comment without a line end is left. At most `fuel` line ends. -/
def skipLines : (fuel : Nat) → List Char → List Char
  | 0, cs => skipSpaces cs
  | fuel + 1, cs =>
    match newline? (skipComment (skipSpaces cs)) with
    | some rest => skipLines fuel rest
    | none => skipSpaces cs

/-- The text after blanks, line ends and comments. -/
def skipBlank (cs : List Char) : List Char :=
  skipLines cs.length cs

end Router.Toml
