/-!
# Double-precision numbers

The non-negative numbers of the 64-bit binary format, in exact arithmetic on natural numbers: the
number nearest to a ratio, ties to the even mantissa, and the number that a decimal text stands for.
-/

namespace MarkupCleaner.Number

/-- A non-negative number of the format: a mantissa times a power of two, or larger than all of
    them. -/
inductive Binary64 where
  | finite (mantissa : Nat) (exponent : Int)
  | infinite
deriving DecidableEq, Repr, Inhabited

namespace Binary64

/-- The smallest exponent of the format. -/
def minExponent : Int := -1074

/-- The largest exponent of the format. -/
def maxExponent : Int := 971

/-- The number of mantissas of one exponent. -/
def mantissaBound : Nat := Nat.pow 2 53

/-- The quotient rounded to the nearest whole number, a tie to the even one. -/
def roundedQuotient (num den : Nat) : Nat :=
  let q := num / den
  let twice := 2 * (num % den)
  if twice < den then q else if den < twice then q + 1 else if q % 2 = 0 then q else q + 1

/-- The largest `k` with `2 ^ k ≤ num / den`, for positive `num` and `den`. -/
def floorLog2 (num den : Nat) : Int :=
  let estimate : Int := (num.log2 : Int) - (den.log2 : Int)
  if den * Nat.pow 2 estimate.toNat ≤ num * Nat.pow 2 (-estimate).toNat then estimate
  else estimate - 1

/-- The number nearest to `num / den`, for a positive `den`. -/
def ofRatio (num den : Nat) : Binary64 :=
  if num = 0 then finite 0 minExponent
  else
    let exponent := max (floorLog2 num den - 52) minExponent
    let mantissa :=
      roundedQuotient (num * Nat.pow 2 (-exponent).toNat) (den * Nat.pow 2 exponent.toNat)
    let (mantissa, exponent) :=
      if mantissa = mantissaBound then (mantissaBound / 2, exponent + 1) else (mantissa, exponent)
    if maxExponent < exponent then infinite else finite mantissa exponent

/-- The number nearest to `digits` times a power of ten. Powers that leave the format by far are not
    computed. -/
def ofDecimal (digits : Nat) (exponent : Int) : Binary64 :=
  let magnitude : Int := (Nat.toDigits 10 digits).length + exponent
  if digits = 0 ∨ magnitude < -400 then finite 0 minExponent
  else if 400 < magnitude then infinite
  else ofRatio (digits * Nat.pow 10 exponent.toNat) (Nat.pow 10 (-exponent).toNat)

/-- A whole number of the format. -/
def ofNat (n : Nat) : Binary64 := ofRatio n 1

/-- The whole number that a number is equal to, if there is one. -/
def toNat? : Binary64 → Option Nat
  | infinite => none
  | finite mantissa exponent =>
    let den := Nat.pow 2 (-exponent).toNat
    if mantissa % den = 0 then some (mantissa / den * Nat.pow 2 exponent.toNat) else none

end Binary64
end MarkupCleaner.Number
