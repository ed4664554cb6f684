import Router.Text.Notation

/-!
# Hexadecimal text

Two digits per octet, the high half first. Digits of either case are read, small ones are written. Text is given as
the octets of its UTF-8 form, so a fault names the octet that is no digit and where it stands.
-/

namespace Router.Hex

/-- Why a text is not hexadecimal. -/
inductive Fault
  /-- A half octet is left over. -/
  | oddLength
  /-- An octet of the text is no digit; positions count octets from 0. -/
  | badDigit (octet : UInt8) (position : Nat)
  deriving DecidableEq, Repr

/-- The wording of a fault; an octet is shown as the character with its number. -/
def Fault.message : Fault → String
  | .oddLength => "Odd number of digits"
  | .badDigit octet position =>
    let shown := Text.Quoted.quoteChar (Char.ofNat octet.toNat)
    s!"Invalid character {shown} at position {position}"

/-- The value of a hexadecimal digit, given as an octet of ASCII text. -/
def digitValue? (c : UInt8) : Option UInt8 :=
  if 48 ≤ c ∧ c ≤ 57 then some (c - 48)
  else if 97 ≤ c ∧ c ≤ 102 then some (c - 87)
  else if 65 ≤ c ∧ c ≤ 70 then some (c - 55)
  else none

/-- The value of the digit at `position`. -/
def digit (c : UInt8) (position : Nat) : Except Fault UInt8 :=
  match digitValue? c with
  | some v => .ok v
  | none => .error (.badDigit c position)

/-- The octets that pairs of digits from `position` on stand for. -/
def decodePairs : (position : Nat) → List UInt8 → Except Fault (List UInt8)
  | _, [] => .ok []
  | _, [_] => .error .oddLength
  | position, a :: b :: rest => do
    let high ← digit a position
    let low ← digit b (position + 1)
    let bytes ← decodePairs (position + 2) rest
    return (high * 16 + low) :: bytes

/-- The octets that ASCII digits stand for. An odd length is reported before any bad digit. -/
def decode (text : List UInt8) : Except Fault (List UInt8) :=
  if text.length % 2 = 1 then .error .oddLength else decodePairs 0 text

/-- The octets of a text, or the wording of what is wrong with it. -/
def read (text : String) : Except String (List UInt8) :=
  (decode text.toUTF8.toList).mapError Fault.message

/-- The small digit of a half octet. -/
def digitChar (v : UInt8) : Char :=
  Nat.digitChar v.toNat

/-- Two small digits per octet. -/
def encode (bytes : List UInt8) : String :=
  String.ofList (bytes.flatMap fun b => [digitChar (b / 16), digitChar (b % 16)])

end Router.Hex
