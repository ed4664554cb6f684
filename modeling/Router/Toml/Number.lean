import Router.Text.Fields
import Router.Text.Notation

/-!
# Numbers of TOML

Numbers are read from a whole token. Underscores may stand between digits. An integer fits into 64 bits with sign; a
decimal integer has no leading zero, and only it has a sign. Any other number has a fraction or an exponent or is one
of the words `inf` and `nan`; one that is too large for a double, if it is positive, is no number.
-/

namespace Router.Toml

open Router.Text

/-- The digits of a text without the underscores between them. -/
def ungroup? (radix : Nat) (cs : List Char) : Option (List Char) :=
  let parts := fields '_' cs
  if parts.all fun part => part ≠ [] && part.all (Radix.isDigit radix) then some parts.flatten else none

/-- Whether a text has a minus sign, and the text after its sign. -/
def sign : List Char → Bool × List Char
  | '-' :: rest => (true, rest)
  | '+' :: rest => (false, rest)
  | cs => (false, cs)

/-- The number of a decimal text without leading zero. -/
def decimal? (cs : List Char) : Option Nat :=
  if cs.head? = some '0' ∧ cs.length ≠ 1 then none
  else (ungroup? 10 cs).map (Radix.value 10)

/-- The largest integer. -/
def maxInteger : Nat := 9223372036854775807

/-- The number of a text in some other radix. -/
def radixInteger? (radix : Nat) (cs : List Char) : Option Int :=
  (((ungroup? radix cs).map (Radix.value radix)).filter (· ≤ maxInteger)).map Int.ofNat

/-- The integer of a token. -/
def integer? : List Char → Option Int
  | '0' :: 'x' :: rest => radixInteger? 16 rest
  | '0' :: 'o' :: rest => radixInteger? 8 rest
  | '0' :: 'b' :: rest => radixInteger? 2 rest
  | token =>
    let (negative, digits) := sign token
    match decimal? digits with
    | none => none
    | some n =>
      if negative then if n ≤ maxInteger + 1 then some (-(Int.ofNat n)) else none
      else if n ≤ maxInteger then some (Int.ofNat n) else none

/-- Whether `mantissa * 10 ^ exponent` rounds to infinity as a double: it is at least half a step above the largest
one. -/
def overflows (mantissa : Nat) (exponent : Int) : Bool :=
  let limit := (1 <<< 1024) - (1 <<< 970)
  let digits : Int := (Nat.toDigits 10 mantissa).length
  if mantissa = 0 ∨ digits + exponent < 300 then false
  else if 400 < digits + exponent then true
  else if 0 ≤ exponent then limit ≤ mantissa * Nat.pow 10 exponent.toNat
  else limit * Nat.pow 10 (-exponent).toNat ≤ mantissa

/-- The exponent that stands after the letter for it. -/
def exponent? (cs : List Char) : Option Int :=
  let (negative, digits) := sign cs
  (ungroup? 10 digits).map fun ds =>
    if negative then -(Int.ofNat (Radix.value 10 ds)) else Int.ofNat (Radix.value 10 ds)

/-- Whether a token is a number with a fraction or an exponent, or a word for one. -/
def isDecimal (token : List Char) : Bool :=
  let (negative, body) := sign token
  if body = ['i', 'n', 'f'] ∨ body = ['n', 'a', 'n'] then true
  else
    let mantissa := body.takeWhile fun c => c ≠ 'e' && c ≠ 'E'
    let rest := body.dropWhile fun c => c ≠ 'e' && c ≠ 'E'
    let exponent := match rest with
      | [] => some 0
      | _ :: exponent => exponent? exponent
    let parts := match cut? '.' mantissa with
      | none => if rest = [] then none else (decimal? mantissa).map fun _ => (mantissa, [])
      | some (whole, fraction) =>
        match decimal? whole, ungroup? 10 fraction with
        | some _, some digits => some (whole, digits)
        | _, _ => none
    match parts, exponent with
    | some (whole, fraction), some exponent =>
      let digits := whole.filter (· ≠ '_') ++ fraction
      negative || !overflows (Radix.value 10 digits) (exponent - fraction.length)
    | _, _ => false

end Router.Toml
