import Router.Toml.DateTime
import Router.Toml.Number
import Router.Toml.Quoted
import Router.Toml.Section

/-!
# Reading TOML

A document is a sequence of lines, each blank or with a header or an entry. Lists and tables in braces nest at most 79
deep, and a name has at most 79 parts.
-/

namespace Router.Toml

open Router.Document

/-! ## Names -/

/-- A character of a name without quotes. -/
def isBareChar (c : Char) : Bool :=
  c.isAlphanum || c = '-' || c = '_'

/-- The part of a name at the front of a text, and the text after it. -/
def namePart? (cs : List Char) : Option (String × List Char) :=
  match cs with
  | '"' :: _ | '\'' :: _ => (lineString? cs).map fun (s, rest) => (String.ofList s, rest)
  | _ =>
    let bare := cs.takeWhile isBareChar
    if bare = [] then none else some (String.ofList bare, cs.dropWhile isBareChar)

/-- At most `fuel` parts with dots between them and blanks around them. -/
def nameParts? : (fuel : Nat) → List Char → Option (List String × List Char)
  | 0, _ => none
  | fuel + 1, cs => do
    let (part, cs) ← namePart? (skipSpaces cs)
    match skipSpaces cs with
    | '.' :: rest =>
      let (parts, rest) ← nameParts? fuel rest
      return (part :: parts, rest)
    | rest => return ([part], rest)

/-- The most parts of a name, and the deepest nesting of lists and tables in braces. -/
def maxDepth : Nat := 79

/-- A name as the path to it and its last part, and the text after it. -/
def name? (cs : List Char) : Option (List String × String × List Char) := do
  let (parts, rest) ← nameParts? maxDepth cs
  let last ← parts.getLast?
  return (parts.dropLast, last, rest)

/-! ## Values -/

/-- A character of a word: a number, a date or time, or a word of letters. -/
def isTokenChar (c : Char) : Bool :=
  c.isAlphanum || c = '+' || c = '-' || c = '.' || c = '_' || c = ':'

/-- The value of a word. -/
def word? (token : List Char) : Option Value :=
  if token = "true".toList then some (.boolean true)
  else if token = "false".toList then some (.boolean false)
  else match integer? token with
    | some n => some (.integer n)
    | none =>
      if isDateTime token then some (.dateTime (String.ofList token))
      else if isDecimal token then some (.decimal (String.ofList token))
      else none

/-- The word at the front of a text, and the text after it. After a date, a blank may stand before a time. -/
def token (cs : List Char) : List Char × List Char :=
  let word := cs.takeWhile isTokenChar
  let rest := cs.dropWhile isTokenChar
  match rest with
  | ' ' :: rest' =>
    let time := rest'.takeWhile isTokenChar
    if isDate word && isTimeWithOffset time then (word ++ 'T' :: time, rest'.dropWhile isTokenChar) else (word, rest)
  | _ => (word, rest)

mutual

/-- The value at the front of a text, and the text after it. Lists and tables in braces nest at most `depth` deep. -/
def value? (depth : Nat) (fuel : Nat) (cs : List Char) : Option (Value × List Char) :=
  match fuel with
  | 0 => none
  | fuel + 1 =>
    match cs with
    | '"' :: _ | '\'' :: _ => (string? cs).map fun (s, rest) => (.text (String.ofList s), rest)
    | '[' :: rest =>
      if depth = 0 then none
      else (items? (depth - 1) fuel (skipBlank rest)).map fun (items, rest) => (.list items, rest)
    | '\x7b' :: rest =>
      if depth = 0 then none
      else
        match skipSpaces rest with
        | '\x7d' :: rest => some (.table [], rest)
        | rest =>
          (pairs? (depth - 1) fuel (.explicit []) rest).map fun (s, rest) => (.table (Node.entryValues s.entries), rest)
    | _ =>
      let (word, rest) := token cs
      (word? word).map (·, rest)

/-- The values of a list up to its closing bracket, and the text after that. A comma may stand after the last one. -/
def items? (depth : Nat) (fuel : Nat) (cs : List Char) : Option (List Value × List Char) :=
  match fuel with
  | 0 => none
  | fuel + 1 =>
    match cs with
    | ']' :: rest => some ([], rest)
    | _ =>
      match value? depth fuel cs with
      | none => none
      | some (v, rest) =>
        match skipBlank rest with
        | ',' :: rest => (items? depth fuel (skipBlank rest)).map fun (vs, rest) => (v :: vs, rest)
        | ']' :: rest => some ([v], rest)
        | _ => none

/-- Enters the entries of a table in braces into `s`, up to the closing brace, and the text after that. -/
def pairs? (depth : Nat) (fuel : Nat) (s : Section) (cs : List Char) : Option (Section × List Char) :=
  match fuel with
  | 0 => none
  | fuel + 1 =>
    match name? cs with
    | some (path, name, '=' :: rest) =>
      match value? depth fuel (skipSpaces rest) with
      | none => none
      | some (v, rest) =>
        match s.insert path name v with
        | none => none
        | some s =>
          match skipSpaces rest with
          | ',' :: rest => pairs? depth fuel s rest
          | '\x7d' :: rest => some (s, rest)
          | _ => none
    | _ => none

end

/-! ## Lines -/

/-- What a line says. -/
inductive Statement
  | header (kind : HeaderKind) (path : List String) (name : String)
  | entry (path : List String) (name : String) (value : Value)

/-- The header at the front of a text, and the text after its line. -/
def header? (cs : List Char) : Option (Statement × List Char) :=
  match cs with
  | '[' :: '[' :: rest =>
    match name? rest with
    | some (path, name, ']' :: ']' :: rest) => (endOfLine? rest).map (.header .repeated path name, ·)
    | _ => none
  | '[' :: rest =>
    match name? rest with
    | some (path, name, ']' :: rest) => (endOfLine? rest).map (.header .single path name, ·)
    | _ => none
  | _ => none

/-- The entry at the front of a text, and the text after its line. -/
def entry? (cs : List Char) : Option (Statement × List Char) :=
  match name? cs with
  | some (path, name, '=' :: rest) => do
    let (v, rest) ← value? maxDepth (2 * rest.length + 2) (skipSpaces rest)
    let rest ← endOfLine? rest
    return (.entry path name v, rest)
  | _ => none

/-- The statements of the lines of a text, of which there are at most `fuel`. -/
def statements? : (fuel : Nat) → List Char → Option (List Statement)
  | 0, _ => none
  | fuel + 1, cs =>
    match skipSpaces cs with
    | [] => some []
    | '#' :: rest => (endOfLine? ('#' :: rest)).bind fun rest => statements? fuel rest
    | '\n' :: rest => statements? fuel rest
    | '\r' :: rest => (newline? ('\r' :: rest)).bind fun rest => statements? fuel rest
    | '[' :: rest => do
      let (s, rest) ← header? ('[' :: rest)
      let ss ← statements? fuel rest
      return s :: ss
    | cs => do
      let (s, rest) ← entry? cs
      let ss ← statements? fuel rest
      return s :: ss

/-! ## Documents -/

/-- A document with the statements entered into it; `here` is the path of the last header. -/
def enter? (root : Section) (here : List String) : List Statement → Option Section
  | [] => some root
  | .header kind path name :: rest =>
    (root.openHeader kind path name).bind fun root => enter? root (path ++ [name]) rest
  | .entry path name v :: rest =>
    (root.modify false (fun t => t.insert path name v) here).bind fun root => enter? root here rest

/-- The text without a byte order mark. -/
def skipMark : List Char → List Char
  | '\uFEFF' :: rest => rest
  | cs => cs

/-- The table of a document. -/
def read? (s : String) : Option Value := do
  let cs := skipMark s.toList
  let ss ← statements? (cs.length + 1) cs
  let root ← enter? (.explicit []) [] ss
  return .table (Node.entryValues root.entries)

end Router.Toml
