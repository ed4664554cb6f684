import Router.Text.Printable

/-!
# Numerals, quoted text and records

How single pieces of a text are written: numerals in any radix up to 36, and, for diagnostics, text between quotes and
records with their fields by name.
-/

namespace Router.Text

/-! ## Digits in any radix

Letters of either case are digits from ten on. A numeral is a text of digits, at least one. -/

namespace Radix

/-- The value of a character as a digit below `radix`. -/
def digit? (radix : Nat) (c : Char) : Option Nat :=
  let value? : Option Nat :=
    if c.isDigit then some (c.toNat - 48)
    else if c.isLower then some (c.toNat - 87)
    else if c.isUpper then some (c.toNat - 55)
    else none
  value?.filter (· < radix)

/-- Whether a character is a digit below `radix`. -/
def isDigit (radix : Nat) (c : Char) : Bool :=
  (digit? radix c).isSome

/-- The number that a text of digits stands for; other characters count as zero. -/
def value (radix : Nat) (cs : List Char) : Nat :=
  cs.foldl (fun acc c => acc * radix + (digit? radix c).getD 0) 0

/-- The number that a numeral stands for. -/
def read? (radix : Nat) (cs : List Char) : Option Nat :=
  if cs ≠ [] ∧ cs.all (isDigit radix) then some (value radix cs) else none

end Radix

/-! ## Quoted text

A text stands between double quotes, a single character between single quotes. Inside, the quote and a backslash stand
behind a backslash, the common controls have letters, and any other character that does not show is written by its code
point. -/

namespace Quoted

/-- One character between quotes of a kind. -/
def escape (mark c : Char) : List Char :=
  match c with
  | '\x00' => ['\\', '0']
  | '\t' => ['\\', 't']
  | '\r' => ['\\', 'r']
  | '\n' => ['\\', 'n']
  | '\\' => ['\\', '\\']
  | c =>
    if c = mark then ['\\', c]
    else if isPrintable c then [c]
    else "\\u\x7b".toList ++ Nat.toDigits 16 c.toNat ++ "\x7d".toList

/-- The text between double quotes. -/
def quote (s : String) : String :=
  String.ofList ('"' :: s.toList.flatMap (escape '"') ++ ['"'])

/-- The character between single quotes. -/
def quoteChar (c : Char) : String :=
  String.ofList ('\'' :: escape '\'' c ++ ['\''])

end Quoted

/-! ## Records -/

/-- One line for a record: its name and, in braces, its fields by name. -/
def describeRecord (name : String) (fields : List (String × String)) : String :=
  name ++ " \x7b " ++ ", ".intercalate (fields.map fun (field, value) => s!"{field}: {value}") ++ " \x7d"

end Router.Text
