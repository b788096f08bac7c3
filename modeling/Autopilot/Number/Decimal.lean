import Autopilot.Number.Basic

/-!
# Decimal text of numbers

Numbers are shown in three ways.  The full text has the fewest digits that read
back as the same number; of several such decimals it is the nearest one.  The brief
text has six significant digits.  The fixed text has one place after the point.
The last two are rounded from the exact value, a tie going to the even digit.
-/

namespace Autopilot

/-- A decimal in scientific form: its digits, the first of them before the point,
and the power of ten of the first digit. -/
structure Decimal where
  digits : List Char
  exponent : Int

/-- How a decimal is laid out. -/
structure Decimal.Style where
  /-- The lowest power of ten written without an exponent. -/
  lowest : Int
  /-- The first power of ten written with an exponent. -/
  limit : Int
  /-- What follows a whole number that is written without an exponent. -/
  wholeEnding : List Char

namespace Decimal

/-- The full text: from `10 ^ 16` on and below `10 ^ (-4)` with an exponent, a whole
number with a zero after the point. -/
def fullStyle : Style := ⟨-4, 16, ['.', '0']⟩

/-- The brief text: from `10 ^ 6` on and below `10 ^ (-4)` with an exponent, a whole
number without a point. -/
def briefStyle : Style := ⟨-4, 6, []⟩

/-- The number of decimal digits of a natural number. -/
def digitCount (n : Nat) : Nat :=
  (Nat.toDigits 10 n).length

/-- A list of digits without the zeros at its end. -/
def trimZeros (digits : List Char) : List Char :=
  (digits.reverse.dropWhile (· = '0')).reverse

/-- The decimal `coefficient * 10 ^ scale` of a positive coefficient. -/
def ofScaled (coefficient : Nat) (scale : Int) : Decimal :=
  ⟨trimZeros (Nat.toDigits 10 coefficient), scale + digitCount coefficient - 1⟩

/-- The decimal zero. -/
def zero : Decimal := ⟨['0'], 0⟩

/-- The exponent after the letter `e`: a sign and at least two digits. -/
def exponentText (exponent : Int) : List Char :=
  let digits := Nat.toDigits 10 exponent.natAbs
  (if exponent < 0 then '-' else '+') ::
    (List.replicate (2 - digits.length) '0' ++ digits)

/-- Digits with a point after the first one, if there are more. -/
def pointed : List Char → List Char
  | [] => []
  | [d] => [d]
  | d :: rest => d :: '.' :: rest

/-- The text of a decimal. -/
def render (style : Style) (decimal : Decimal) : List Char :=
  if decimal.exponent < style.lowest ∨ style.limit ≤ decimal.exponent then
    pointed decimal.digits ++ 'e' :: exponentText decimal.exponent
  else if decimal.exponent < 0 then
    '0' :: '.' :: (List.replicate ((-decimal.exponent).toNat - 1) '0' ++ decimal.digits)
  else
    let whole := decimal.exponent.toNat + 1
    if decimal.digits.length ≤ whole then
      decimal.digits ++ List.replicate (whole - decimal.digits.length) '0' ++
        style.wholeEnding
    else
      decimal.digits.take whole ++ '.' :: decimal.digits.drop whole

/-- The power of ten of the first digit of a positive quotient. -/
def leadingExponent (num den : Nat) : Int :=
  if den ≤ num then digitCount (num / den) - 1
  else -(digitCount ((den + num - 1) / num - 1) : Int)

/-- The numerator of a quotient divided by a power of ten. -/
def scaledNum (num : Nat) (scale : Int) : Nat :=
  num * tenPow (-scale).toNat

/-- The denominator of a quotient divided by a power of ten. -/
def scaledDen (den : Nat) (scale : Int) : Nat :=
  den * tenPow scale.toNat

/-- A positive quotient rounded to a number of significant digits. -/
def ofRatio (places num den : Nat) : Decimal :=
  let scale := leadingExponent num den - places + 1
  ofScaled (roundDiv (scaledNum num scale) (scaledDen den scale)) scale

end Decimal

namespace Magnitude

/-- Whether a decimal, rounded, is this magnitude. -/
def isRead (size : Magnitude) (coefficient : Nat) (scale : Int) : Bool :=
  ofDecimal? coefficient scale == some size

/-- The decimal with a number of digits that reads back as a positive magnitude, the
nearer one of two. -/
def withPlaces? (size : Magnitude) (places : Nat) : Option Decimal :=
  let scale := Decimal.leadingExponent size.units Binary64.one - places + 1
  let num := Decimal.scaledNum size.units scale
  let den := Decimal.scaledDen Binary64.one scale
  match size.isRead (num / den) scale, size.isRead (num / den + 1) scale with
  | true, true => some (Decimal.ofScaled (roundDiv num den) scale)
  | true, false => some (Decimal.ofScaled (num / den) scale)
  | false, true => some (Decimal.ofScaled (num / den + 1) scale)
  | false, false => none

/-- The shortest decimal that reads back as a magnitude.  Seventeen digits are always
enough. -/
def shortest (size : Magnitude) : Decimal :=
  if size.units = 0 then Decimal.zero
  else
    (((List.range 17).map (· + 1)).findSome? size.withPlaces?).getD
      (Decimal.ofRatio 17 size.units Binary64.one)

/-- The decimal of six significant digits nearest to a magnitude. -/
def brief (size : Magnitude) : Decimal :=
  if size.units = 0 then Decimal.zero else Decimal.ofRatio 6 size.units Binary64.one

/-- A magnitude with one place after the point. -/
def fixedText (size : Magnitude) : List Char :=
  let tenths := roundDiv (size.units * 10) Binary64.one
  Nat.toDigits 10 (tenths / 10) ++ '.' :: Nat.toDigits 10 (tenths % 10)

end Magnitude

namespace Binary64

/-- The text of a number, given that of magnitudes. -/
def showWith (showSize : Magnitude → List Char) : Binary64 → String
  | nan => "nan"
  | infinite negative => if negative then "-inf" else "inf"
  | finite negative size =>
    String.ofList ((if negative then ['-'] else []) ++ showSize size)

/-- The full text of a real number. -/
def text : Binary64 → String :=
  showWith fun size => size.shortest.render Decimal.fullStyle

/-- The brief text of a real number. -/
def briefText : Binary64 → String :=
  showWith fun size => size.brief.render Decimal.briefStyle

/-- The text of a real number with one place after the point. -/
def fixedText : Binary64 → String :=
  showWith Magnitude.fixedText

end Binary64

namespace Number

/-- The full text of a number; a whole number has neither point nor exponent. -/
def text : Number → String
  | int n => toString n
  | real x => x.text

/-- The brief text of a number, read as a real. -/
def briefText (number : Number) : Except Fault String := do
  return (← number.toReal).briefText

/-- The text of a number with one place after the point, read as a real. -/
def fixedText (number : Number) : Except Fault String := do
  return (← number.toReal).fixedText

end Number

end Autopilot
