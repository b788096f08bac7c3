import Autopilot.Number.Basic
import Autopilot.Text.Numeral

/-!
# Reading numerals

A numeral is an optional sign and either a word for an infinity or for no number, in
any letter case, or digits with an optional point and an optional exponent.  It may
stand between blanks, an underscore may separate two of its digits, and the decimal
digits and blanks of all scripts are accepted.  The number read is the one nearest to
the decimal; one that is out of range becomes infinite.
-/

namespace Autopilot

namespace Numeral

open Text

/-- A character of a text that is not in ASCII, replaced by the blank or the digit of
ASCII that it stands for. -/
def narrow? (c : Char) : Option Char :=
  if c.toNat < 0x80 then some c
  else if isWideBlank c then some ' '
  else (digitValue? c).map Nat.digitChar

/-- The characters that follow, without the underscores between digits.  An
underscore anywhere else is refused. -/
def joinDigits? (afterDigit : Bool) : List Char → Option (List Char)
  | [] => some []
  | '_' :: rest =>
    match rest with
    | d :: more =>
      if afterDigit && isDigit d then (joinDigits? true more).map (d :: ·) else none
    | [] => none
  | c :: rest => (joinDigits? (isDigit c) rest).map (c :: ·)

/-- A list of characters without the blanks at both ends. -/
def trimBlanks (cs : List Char) : List Char :=
  ((cs.dropWhile isNarrowBlank).reverse.dropWhile isNarrowBlank).reverse

/-- An optional sign and what follows it; whether the sign is a minus. -/
def splitSign : List Char → Bool × List Char
  | '-' :: rest => (true, rest)
  | '+' :: rest => (false, rest)
  | cs => (false, cs)

/-- The natural number written by decimal digits. -/
def digitsValue (digits : List Char) : Nat :=
  digits.foldl (fun n d => 10 * n + (d.toNat - '0'.toNat)) 0

/-- The exponent at the end of a numeral: nothing, or a letter `e`, an optional sign
and digits. -/
def exponent? : List Char → Option Int
  | [] => some 0
  | c :: rest =>
    if c = 'e' ∨ c = 'E' then
      let (negative, digits) := splitSign rest
      if digits.isEmpty || !digits.all isDigit then none
      else
        let n : Int := digitsValue digits
        some (if negative then -n else n)
    else none

/-- The digits after an optional point, and what follows them. -/
def splitFraction : List Char → List Char × List Char
  | '.' :: rest => (rest.takeWhile isDigit, rest.dropWhile isDigit)
  | cs => ([], cs)

/-- The number nearest to a decimal.  Exponents far outside the range of the format
are decided without computing a power of ten. -/
def nearest (negative : Bool) (coefficient : Nat) (scale : Int) : Binary64 :=
  let leading := (Nat.toDigits 10 coefficient).length + scale
  if coefficient = 0 ∨ leading < -400 then .finite negative Magnitude.zero
  else if 400 < leading then .infinite negative
  else .ofDecimal negative coefficient scale

/-- The number of an unsigned decimal numeral. -/
def decimal? (negative : Bool) (cs : List Char) : Option Binary64 :=
  let whole := cs.takeWhile isDigit
  let (fraction, rest) := splitFraction (cs.dropWhile isDigit)
  if whole.isEmpty && fraction.isEmpty then none
  else
    (exponent? rest).map fun exponent =>
      nearest negative (digitsValue (whole ++ fraction)) (exponent - fraction.length)

/-- The number of an unsigned numeral, given its sign. -/
def unsigned? (negative : Bool) (cs : List Char) : Option Binary64 :=
  let word := cs.map Char.toLower
  if word = ['i', 'n', 'f'] ∨ word = ['i', 'n', 'f', 'i', 'n', 'i', 't', 'y'] then
    some (.infinite negative)
  else if word = ['n', 'a', 'n'] then some .nan
  else decimal? negative cs

/-- The number of a numeral given by its characters. -/
def ofChars? (cs : List Char) : Option Binary64 := do
  let narrowed ← cs.mapM narrow?
  let joined ← joinDigits? false narrowed
  let (negative, rest) := splitSign (trimBlanks joined)
  unsigned? negative rest

end Numeral

/-- The number written by a text, if the text is a numeral. -/
def Binary64.ofText? (text : String) : Option Binary64 :=
  Numeral.ofChars? text.toList

end Autopilot
