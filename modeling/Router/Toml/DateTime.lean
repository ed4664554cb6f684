import Router.Text.Fields
import Router.Text.Notation

/-!
# Dates and times of TOML

A date, a time, or both with an optional offset. Months have the days of the Gregorian calendar, a minute may have a
sixty-first second, and a time may have any number of decimals.
-/

namespace Router.Toml

open Router.Text

/-- The number that exactly `count` decimal digits at the front of a text stand for, and the text after them. -/
def digits? (count : Nat) (cs : List Char) : Option (Nat × List Char) :=
  if (cs.take count).length = count then (Radix.read? 10 (cs.take count)).map (·, cs.drop count) else none

/-- The text after a given character. -/
def skipChar? (c : Char) : List Char → Option (List Char)
  | d :: rest => if d = c then some rest else none
  | [] => none

/-- The days of a month. -/
def daysInMonth (year month : Nat) : Nat :=
  if month = 2 then
    if year % 4 = 0 ∧ (year % 100 ≠ 0 ∨ year % 400 = 0) then 29 else 28
  else if month = 4 ∨ month = 6 ∨ month = 9 ∨ month = 11 then 30
  else 31

/-- The text after a date. -/
def skipDate? (cs : List Char) : Option (List Char) := do
  let (year, cs) ← digits? 4 cs
  let cs ← skipChar? '-' cs
  let (month, cs) ← digits? 2 cs
  let cs ← skipChar? '-' cs
  let (day, cs) ← digits? 2 cs
  if 1 ≤ month ∧ month ≤ 12 ∧ 1 ≤ day ∧ day ≤ daysInMonth year month then return cs else none

/-- The text after hours and minutes. -/
def skipMinutes? (cs : List Char) : Option (List Char) := do
  let (hour, cs) ← digits? 2 cs
  let cs ← skipChar? ':' cs
  let (minute, cs) ← digits? 2 cs
  if hour ≤ 23 ∧ minute ≤ 59 then return cs else none

/-- The text after a time. -/
def skipTime? (cs : List Char) : Option (List Char) := do
  let cs ← skipMinutes? cs
  let cs ← skipChar? ':' cs
  let (second, cs) ← digits? 2 cs
  if 60 < second then none
  else
    match cs with
    | '.' :: rest => if (rest.head?.map Char.isDigit).getD false then return rest.dropWhile Char.isDigit else none
    | _ => return cs

/-- The text after an offset from universal time. -/
def skipOffset? : List Char → Option (List Char)
  | 'Z' :: rest | 'z' :: rest => some rest
  | '+' :: rest | '-' :: rest => skipMinutes? rest
  | _ => none

/-- Whether a token is a time. -/
def isTime (token : List Char) : Bool :=
  skipTime? token = some []

/-- Whether a token is a time with or without an offset. -/
def isTimeWithOffset (token : List Char) : Bool :=
  match skipTime? token with
  | some [] => true
  | some rest => skipOffset? rest = some []
  | none => false

/-- Whether a token is a date. -/
def isDate (token : List Char) : Bool :=
  skipDate? token = some []

/-- Whether a token is a date, a time, or both with a letter between them. -/
def isDateTime (token : List Char) : Bool :=
  isTime token ||
    match skipDate? token with
    | some [] => true
    | some ('T' :: rest) | some ('t' :: rest) => isTimeWithOffset rest
    | _ => false

end Router.Toml
