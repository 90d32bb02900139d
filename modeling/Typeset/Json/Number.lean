import Typeset.Decimal.Shortest

/-! Numbers of JSON: how they are written, what value a written number has, and how a value is
written again. Whole numbers that fit into 64 bits, signed or unsigned, keep their value; all others
become floating-point numbers. -/
namespace Typeset.Json

/-- A number as it is written. -/
structure Numeral where
  negative : Bool
  /-- The digits before the point. -/
  whole : List Nat
  /-- The digits after the point; none if there is no point. -/
  fraction : List Nat
  exponent : Option Int
  deriving DecidableEq, Repr

/-- The value of a number. -/
inductive Number where
  /-- A whole number from -2^63 to 2^64 - 1. -/
  | whole (value : Int)
  | real (value : Float)

/-- Append digits to a whole number as long as it stays below 2^64, and give back those that no
longer fit. -/
def appendDigits (value : Nat) : List Nat → Nat × List Nat
  | [] => (value, [])
  | digit :: digits =>
    if 10 * value + digit < UInt64.size then appendDigits (10 * value + digit) digits
    else (value, digit :: digits)

/-- A floating-point number times a power of ten, in steps that a power of ten within the range can
make; none if it is out of range. -/
def scale? (value : Float) (exponent : Int) : Option Float :=
  if exponent.natAbs ≤ 308 then
    let power := Float.ofScientific 1 false exponent.natAbs
    if exponent < 0 then some (value / power)
    else if (value * power).isInf then none else some (value * power)
  else if value == 0.0 then some value
  else if exponent > 0 then none
  else scale? (value / 1e308) (exponent + 308)
termination_by exponent.natAbs
decreasing_by omega

/-- The value of a number with a sign, 64 bits of its digits, and a power of ten. -/
def real? (negative : Bool) (significand : Nat) (exponent : Int) : Option Number :=
  (scale? significand.toUInt64.toFloat exponent).map fun value =>
    .real (if negative then -value else value)

/-- The value of a written number; none if it is out of range. Digits that do not fit into 64 bits
count only by their place. A negative zero is a floating-point number. -/
def Numeral.value? (numeral : Numeral) : Option Number :=
  let (significand, excess) := appendDigits 0 numeral.whole
  if numeral.fraction.isEmpty && numeral.exponent.isNone && excess.isEmpty then
    if !numeral.negative then some (.whole significand)
    else if 0 < significand && significand ≤ UInt64.size / 2 then some (.whole (-significand))
    else some (.real (-significand.toUInt64.toFloat))
  else
    let (significand, unused) := appendDigits significand numeral.fraction
    let used := numeral.fraction.length - unused.length
    real? numeral.negative significand (excess.length - used + numeral.exponent.getD 0)

/-- Digits with a point after so many of them. -/
def withPoint (digits : List Char) (place : Nat) : List Char :=
  digits.take place ++ '.' :: digits.drop place

/-- A decimal as text: with a point between its digits or at most five zeros in front of them, if
its size permits, and otherwise with one digit before the point and a power of ten that has a sign. -/
def decimalText (decimal : Decimal) : List Char :=
  let digits := Nat.toDigits 10 decimal.digits
  let point : Int := digits.length + decimal.exponent
  if 0 ≤ decimal.exponent && point ≤ 16 then
    digits ++ List.replicate decimal.exponent.toNat '0' ++ ['.', '0']
  else if 0 < point && point ≤ 16 then withPoint digits point.toNat
  else if -5 < point && point ≤ 0 then '0' :: '.' :: List.replicate (-point).toNat '0' ++ digits
  else
    let leading := if digits.length = 1 then digits else withPoint digits 1
    leading ++ 'e' :: (if 0 < point then ['+'] else []) ++ (point - 1).repr.toList

/-- A finite floating-point number as text: the shortest decimal that reads back. -/
def realText (value : Float) : String :=
  let bits := value.toBits.toNat
  let sign := if bits ≥ UInt64.size / 2 then ['-'] else []
  let magnitude := Decimal.Binary.ofBits bits
  String.ofList <| sign ++
    if magnitude.significand = 0 then ['0', '.', '0'] else decimalText magnitude.shortest

/-- A number as text. -/
def Number.text : Number → String
  | whole value => value.repr
  | real value => realText value

end Typeset.Json
