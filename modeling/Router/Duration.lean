/-!
# Durations

Times and durations are counted in nanoseconds. Written, a duration has the largest unit of which it holds at least
one, and the decimals it needs.
-/

namespace Router.Duration

/-- Nanoseconds in a second. -/
def second : Nat := 1000000000

/-- Nanoseconds in a millisecond. -/
def millisecond : Nat := 1000000

/-- Nanoseconds in a microsecond. -/
def microsecond : Nat := 1000

/-- The decimals of `part` out of a unit of `10 ^ places`, without zeros at the end. -/
def decimals (part places : Nat) : List Char :=
  let digits := Nat.toDigits 10 part
  let padded := List.replicate (places - digits.length) '0' ++ digits
  (padded.reverse.dropWhile (· = '0')).reverse

/-- A number of units of `10 ^ places` nanoseconds with its decimals. -/
def inUnit (nanoseconds places : Nat) (unit : String) : String :=
  let whole := toString (nanoseconds / Nat.pow 10 places)
  match decimals (nanoseconds % Nat.pow 10 places) places with
  | [] => whole ++ unit
  | digits => whole ++ "." ++ String.ofList digits ++ unit

/-- The text of a duration. -/
def describe (nanoseconds : Nat) : String :=
  if second ≤ nanoseconds then inUnit nanoseconds 9 "s"
  else if millisecond ≤ nanoseconds then inUnit nanoseconds 6 "ms"
  else if microsecond ≤ nanoseconds then inUnit nanoseconds 3 "µs"
  else inUnit nanoseconds 0 "ns"

end Router.Duration
