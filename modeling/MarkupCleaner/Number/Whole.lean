import MarkupCleaner.Unicode.Character

/-!
# Whole numbers in text

Reading runs of decimal digits of any script. A number of more than 4300 digits is refused.
-/

namespace MarkupCleaner.Number

/-- The refusal of a whole number with too many digits. -/
structure DigitLimit where
  digits : Nat
deriving DecidableEq, Repr

/-- The most digits a whole number may have. -/
def maxDigits : Nat := 4300

/-- The wording of the refusal. -/
def DigitLimit.message (limit : DigitLimit) : String :=
  "Exceeds the limit (" ++ toString maxDigits ++ " digits) for integer string conversion: value has "
    ++ toString limit.digits
    ++ " digits; use sys.set_int_max_str_digits() to increase the limit"

/-- The number that digits stand for, whatever script they are written in. -/
def digitsValue (cs : List Char) : Nat :=
  cs.foldl (fun value c => value * 10 + (Unicode.decimalValue? c).getD 0) 0

/-- The number that a run of digits stands for, unless the run is too long. -/
def whole (cs : List Char) : Except DigitLimit Nat :=
  if cs.length ≤ maxDigits then .ok (digitsValue cs) else .error ⟨cs.length⟩

theorem whole_eq_error_iff {cs : List Char} {limit : DigitLimit} :
    whole cs = .error limit ↔ maxDigits < cs.length ∧ ⟨cs.length⟩ = limit := by
  unfold whole
  split
  · next hle => simp [Nat.not_lt.2 hle]
  · next hlong => simp [Nat.lt_of_not_le hlong]

/-- The value of a digit in base sixteen. -/
def hexValue? (c : Char) : Option Nat :=
  if '0' ≤ c && c ≤ '9' then some (c.toNat - '0'.toNat)
  else if 'a' ≤ c && c ≤ 'f' then some (c.toNat - 'a'.toNat + 10)
  else if 'A' ≤ c && c ≤ 'F' then some (c.toNat - 'A'.toNat + 10)
  else none

/-- A digit in base sixteen, upper or lower case. -/
def isHexDigit (c : Char) : Bool := (hexValue? c).isSome

/-- The number that digits in base sixteen stand for. -/
def hexDigitsValue (cs : List Char) : Nat :=
  cs.foldl (fun value c => value * 16 + (hexValue? c).getD 0) 0

end MarkupCleaner.Number
