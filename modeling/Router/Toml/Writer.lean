import Router.Document.Value
import Router.Toml.Number

/-!
# Writing TOML

A document is written as lists of records by name: first one line for each empty list, then a block for each record,
with a blank line between blocks. A string is written in the first of these forms that needs no escape but for tabs:
between double quotes, between single quotes, between three double quotes, between three single quotes; if none does,
with escapes between double quotes, three of them if the text has several lines. A tab stands for itself between single
quotes and is written as an escape between double quotes.
-/

namespace Router.Toml

open Router.Document

/-! ## Strings -/

/-- A control character, the tab and the line feed apart. -/
def isControl (c : Char) : Bool :=
  (c.toNat < 0x20 && c ≠ '\t' && c ≠ '\n') || c.toNat = 0x7F

/-- The longest run of a character, after `run` of them, with `longest` before. -/
def longestRunFrom (c : Char) (run longest : Nat) : List Char → Nat
  | [] => longest
  | d :: rest =>
    if d = c then longestRunFrom c (run + 1) (max longest (run + 1)) rest else longestRunFrom c 0 longest rest

/-- The longest run of a character in a text. -/
def longestRun (c : Char) (cs : List Char) : Nat :=
  longestRunFrom c 0 0 cs

/-- A hexadecimal digit with large letters. -/
def hexDigit (n : Nat) : Char :=
  (Nat.digitChar n).toUpper

/-- Escapes a text. Between three quotes, line feeds stand for themselves, and so do up to two quotes in a row; `run` is
the number of quotes just before. -/
def escape (lines : Bool) (run : Nat) : List Char → List Char
  | [] => []
  | c :: rest =>
    if c = '"' then
      if lines ∧ run < 2 then c :: escape lines (run + 1) rest else '\\' :: '"' :: escape lines 0 rest
    else if c = '\\' then '\\' :: '\\' :: escape lines 0 rest
    else if c = '\n' then if lines then c :: escape lines 0 rest else '\\' :: 'n' :: escape lines 0 rest
    else if c = '\t' then '\\' :: 't' :: escape lines 0 rest
    else if c = '\r' then '\\' :: 'r' :: escape lines 0 rest
    else if c = '\x08' then '\\' :: 'b' :: escape lines 0 rest
    else if c = '\x0c' then '\\' :: 'f' :: escape lines 0 rest
    else if isControl c then
      '\\' :: 'u' :: '0' :: '0' :: hexDigit (c.toNat / 16) :: hexDigit (c.toNat % 16) :: escape lines 0 rest
    else c :: escape lines 0 rest

/-- A text between three quotes. If it has a line feed, one more stands before it, which does not count. -/
def betweenThree (quote : Char) (cs body : List Char) : List Char :=
  [quote, quote, quote] ++ (if '\n' ∈ cs then ['\n'] else []) ++ body ++ [quote, quote, quote]

/-- A text on one line between double quotes. -/
def onOneLine (cs : List Char) : List Char :=
  '"' :: escape false 0 cs ++ ['"']

/-- A text between three double quotes. -/
def onLines (cs : List Char) : List Char :=
  betweenThree '"' cs (escape true 0 cs)

/-- The characters of a string. -/
def stringChars (cs : List Char) : List Char :=
  let control := cs.any isControl
  let newline := cs.contains '\n'
  let backslash := cs.contains '\\'
  if !control && !newline && !backslash && !cs.contains '"' then onOneLine cs
  else if !control && !newline && !cs.contains '\'' then '\'' :: cs ++ ['\'']
  else if !control && !backslash && longestRun '"' cs ≤ 2 then onLines cs
  else if !control && longestRun '\'' cs ≤ 2 then betweenThree '\'' cs cs
  else if newline then onLines cs
  else onOneLine cs

/-! ## Documents -/

/-- The characters of a scalar. An integer has to fit into 64 bits with sign. -/
def scalarChars : Scalar → Except String (List Char)
  | .text s => .ok (stringChars s.toList)
  | .integer n =>
    if (maxInteger : Int) < n then .error s!"{n} is out of range" else .ok (toString n).toList

/-- One line for a field. -/
def fieldLine (field : String × Scalar) : Except String (List Char) :=
  (scalarChars field.2).map fun value => field.1.toList ++ [' ', '=', ' '] ++ value ++ ['\n']

/-- The block of a record of a list. -/
def block (name : String) (fields : List (String × Scalar)) : Except String (List Char) :=
  (fields.mapM fieldLine).map fun lines => ['[', '['] ++ name.toList ++ [']', ']', '\n'] ++ lines.flatten

/-- A list of records under a name. -/
structure RecordList where
  name : String
  records : List (List (String × Scalar))

/-- The lines for empty lists. -/
def emptyLines (lists : List RecordList) : List Char :=
  (lists.filter fun l => l.records.isEmpty).flatMap fun l => l.name.toList ++ [' ', '=', ' ', '[', ']', '\n']

/-- The blocks of all records. -/
def blocks (lists : List RecordList) : Except String (List (List Char)) :=
  (lists.flatMap fun l => l.records.map fun fields => (l.name, fields)).mapM fun (name, fields) => block name fields

/-- The text of a document. -/
def write (lists : List RecordList) : Except String String :=
  (blocks lists).map fun blocks =>
    String.ofList ((emptyLines lists :: blocks).filter (· ≠ []) |>.intersperse ['\n']).flatten

end Router.Toml
