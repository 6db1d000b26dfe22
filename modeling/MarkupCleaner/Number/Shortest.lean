import MarkupCleaner.Number.Binary64

/-!
# Shortest decimal text

The decimal text of a double-precision number with the fewest digits that read back as the same
number; of several such texts the one nearest to the number. It is positional as long as the decimal
exponent lies between -4 and 15, otherwise it has an exponent of at least two digits.
-/

namespace MarkupCleaner.Number

/-- A decimal number: digits times a power of ten. -/
structure Decimal where
  digits : Nat
  exponent : Int
deriving DecidableEq, Repr

/-- The least number of decimal places that lift `num / den` to one or more, searched from `places`
    on. -/
def leadingPlaces (num den places : Nat) : Nat → Nat
  | 0 => places
  | fuel + 1 => if den ≤ num then places else leadingPlaces (num * 10) den (places + 1) fuel

/-- The largest `k` with `10 ^ k ≤ num / den`, for positive numbers of the format. -/
def floorLog10 (num den : Nat) : Int :=
  if den ≤ num then (Nat.toDigits 10 (num / den)).length - 1
  else -(leadingPlaces num den 0 400 : Int)

/-- The interval of real numbers that round to a finite number, over a common denominator. -/
structure RoundingInterval where
  low : Nat
  value : Nat
  high : Nat
  den : Nat
  closed : Bool

/-- The interval of a finite number with a positive mantissa. Below a power of two the numbers lie
    twice as dense. -/
def roundingInterval (mantissa : Nat) (exponent : Int) : RoundingInterval :=
  let scale := Nat.pow 2 (exponent - 2).toNat
  let dense := mantissa = Binary64.mantissaBound / 2 ∧ Binary64.minExponent < exponent
  { low := (4 * mantissa - if dense then 1 else 2) * scale
    value := 4 * mantissa * scale
    high := (4 * mantissa + 2) * scale
    den := Nat.pow 2 (2 - exponent).toNat
    closed := mantissa % 2 = 0 }

/-- Whether a decimal number lies in the interval. -/
def RoundingInterval.holds (i : RoundingInterval) (d : Decimal) : Bool :=
  let num := d.digits * Nat.pow 10 d.exponent.toNat * i.den
  let den := Nat.pow 10 (-d.exponent).toNat
  if i.closed then i.low * den ≤ num && num ≤ i.high * den
  else i.low * den < num && num < i.high * den

/-- Of the two neighbours of the number on the grid of `count` digits the one that lies in the
    interval, the nearer one if both do. -/
def RoundingInterval.onGrid? (i : RoundingInterval) (count : Nat) : Option Decimal :=
  let exponent : Int := floorLog10 i.value i.den + 1 - count
  let num := i.value * Nat.pow 10 (-exponent).toNat
  let den := i.den * Nat.pow 10 exponent.toNat
  let below : Decimal := ⟨num / den, exponent⟩
  let above : Decimal := ⟨num / den + 1, exponent⟩
  match i.holds below, i.holds above with
  | true, true =>
    let twice := 2 * (num % den)
    some (if twice < den || (twice = den && below.digits % 2 = 0) then below else above)
  | true, false => some below
  | false, true => some above
  | false, false => none

/-- The first grid, of at most seventeen digits, that has a number in the interval. -/
def shortestDecimal (mantissa : Nat) (exponent : Int) : Decimal :=
  let i := roundingInterval mantissa exponent
  ((List.range' 1 17).findSome? i.onGrid?).getD ⟨mantissa, exponent⟩

/-- The exponent in scientific notation. -/
def exponentText (exponent : Int) : List Char :=
  let digits := Nat.toDigits 10 exponent.natAbs
  'e' :: (if exponent < 0 then '-' else '+') ::
    (List.replicate (2 - digits.length) '0' ++ digits)

/-- Digits without the zeros at their end. -/
def withoutTrailingZeros (digits : List Char) : List Char :=
  (digits.reverse.dropWhile (· = '0')).reverse

/-- The text of a decimal number. A whole number that is written positionally ends in `.0`. -/
def Decimal.text (d : Decimal) : List Char :=
  let all := Nat.toDigits 10 d.digits
  let digits := withoutTrailingZeros all
  let point : Int := all.length + d.exponent
  if -4 < point ∧ point ≤ 16 then
    if point ≤ 0 then '0' :: '.' :: (List.replicate (-point).toNat '0' ++ digits)
    else
      let whole := digits.take point.toNat
      let fraction := digits.drop point.toNat
      whole ++ List.replicate (point.toNat - whole.length) '0' ++ '.' ::
        (if fraction.isEmpty then ['0'] else fraction)
  else
    digits.take 1 ++ (if digits.length ≤ 1 then [] else '.' :: digits.drop 1)
      ++ exponentText (point - 1)

/-- The text of a number. -/
def Binary64.text : Binary64 → List Char
  | infinite => "inf".toList
  | finite 0 _ => "0.0".toList
  | finite mantissa exponent => (shortestDecimal mantissa exponent).text

/-- The text of a length: a whole number is written out without a fraction. -/
def Binary64.lengthText (b : Binary64) : List Char :=
  match b.toNat? with
  | some n => Nat.toDigits 10 n
  | none => b.text

end MarkupCleaner.Number
