/-! The shortest decimal that reads back as a given floating-point number. A finite number is m · 2^q
for whole m and q. The reals that round to it form an interval around it, whose ends belong to it
exactly if m is even. Of the decimals with one digit, then two, and so on, the first that lies in the
interval is the answer; of two with equally many digits, the one nearer to the number. -/
namespace Typeset

/-- A whole number times a power of ten. -/
structure Decimal where
  digits : Nat
  exponent : Int
  deriving DecidableEq, Repr

namespace Decimal

/-- The floating-point number nearest to a decimal. Powers of ten far out of the range are not
worked out. -/
def toFloat (decimal : Decimal) : Float :=
  if decimal.digits = 0 then 0.0
  else if decimal.exponent > 400 then 1.0 / 0.0
  else if decimal.exponent + (Nat.toDigits 10 decimal.digits).length < -400 then 0.0
  else Float.ofScientific decimal.digits (decimal.exponent < 0) decimal.exponent.natAbs

/-- A positive real of the form m · 2^q, with the interval of what rounds to it. -/
structure Binary where
  significand : Nat
  exponent : Int
  /-- Whether the next number below is only half as far as the next above. -/
  lowerIsCloser : Bool
  deriving DecidableEq, Repr

/-- 2^52: the leading bit of a significand, which stands above the 52 bits that are stored. -/
def hiddenBit : Nat := 4503599627370496

/-- The value of a finite floating-point number, without its sign, from its 64 bits: 52 bits of
significand, and above them 11 bits of exponent. -/
def Binary.ofBits (bits : Nat) : Binary :=
  let biased : Nat := bits / hiddenBit % 2048
  let fraction : Nat := bits % hiddenBit
  if biased = 0 then ⟨fraction, -1074, false⟩
  else ⟨hiddenBit + fraction, (biased : Int) - 1075, fraction = 0 && biased > 1⟩

structure Ratio where
  numerator : Nat
  denominator : Nat

/-- A whole number times a power of two and a power of ten. -/
def Ratio.scale (value : Nat) (two ten : Int) : Ratio :=
  ⟨value * Nat.pow 2 two.toNat * Nat.pow 10 ten.toNat,
    Nat.pow 2 (-two).toNat * Nat.pow 10 (-ten).toNat⟩

/-- The number of decimal digits of a whole number. -/
def digitCount (value : Nat) : Nat := (Nat.toDigits 10 value).length

/-- The power of ten of the leading digit of a positive number. Multiplied by 10^330, the smallest
number has digits before the point. -/
def Binary.magnitude (value : Binary) : Int :=
  let ratio := Ratio.scale value.significand value.exponent 330
  (digitCount (ratio.numerator / ratio.denominator) : Int) - 331

/-- Whether a decimal reads back as a number: it lies between the ends of the interval, or at one of
them if the ends belong to it. -/
def Binary.readsBack (value : Binary) (decimal : Decimal) : Bool :=
  -- all in units of 2^(q-2): the number is 4m, the ends 4m + 2 and 4m - 2 (or 4m - 1)
  let centre := 4 * value.significand
  let ratio := Ratio.scale decimal.digits (2 - value.exponent) decimal.exponent
  let low := (centre - if value.lowerIsCloser then 1 else 2) * ratio.denominator
  let high := (centre + 2) * ratio.denominator
  if value.significand % 2 = 0 then low ≤ ratio.numerator && ratio.numerator ≤ high
  else low < ratio.numerator && ratio.numerator < high

/-- The neighbours of a number among the decimals with a given power of ten, the nearer first. -/
def Binary.neighbours (value : Binary) (exponent : Int) : List Decimal :=
  let ratio := Ratio.scale value.significand value.exponent (-exponent)
  let below := ratio.numerator / ratio.denominator
  let remainder := ratio.numerator % ratio.denominator
  let lower : Decimal := ⟨below, exponent⟩
  let upper : Decimal := ⟨below + 1, exponent⟩
  if 2 * remainder < ratio.denominator || (2 * remainder = ratio.denominator && below % 2 = 0)
  then [lower, upper] else [upper, lower]

/-- A decimal without the zeros at its end. -/
def trim (decimal : Decimal) : Decimal :=
  if h : decimal.digits ≠ 0 ∧ decimal.digits % 10 = 0 then
    trim ⟨decimal.digits / 10, decimal.exponent + 1⟩
  else decimal
termination_by decimal.digits
decreasing_by
  have := h.1
  exact Nat.div_lt_self (Nat.pos_of_ne_zero this) (by decide)

/-- The shortest decimal of a positive number. Seventeen digits always suffice. -/
def Binary.shortest (value : Binary) : Decimal :=
  let magnitude := value.magnitude
  let found := (List.range 17).findSome? fun (more : Nat) =>
    (value.neighbours (magnitude - (more : Int))).find? value.readsBack
  (found.getD ⟨0, 0⟩).trim

end Decimal
end Typeset
