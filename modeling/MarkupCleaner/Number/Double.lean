import MarkupCleaner.Number.Shortest

/-!
# Signed numbers in double precision

A number with its sign, or none at all, and the two texts of it: the one that is read, in several
spellings, and the one that is written.
-/

namespace MarkupCleaner.Number

/-- A number in double precision, or what is no number. -/
inductive Double where
  | notANumber
  | signed (negative : Bool) (magnitude : Binary64)
deriving DecidableEq, Repr, Inhabited

namespace Double

/-- The text of a number. -/
def text : Double → String
  | notANumber => "nan"
  | signed negative magnitude => .ofList ((if negative then ['-'] else []) ++ magnitude.text)

/-- The whole number that a number is equal to, if there is one. -/
def toInt? : Double → Option Int
  | notANumber => none
  | signed negative magnitude =>
    magnitude.toNat?.map fun n => if negative then -(n : Int) else n

/-- White space around a number: what Unicode calls white space, so no separator controls. -/
def isSpace (c : Char) : Bool :=
  let code := c.toNat
  (0x09 ≤ code && code ≤ 0x0D) || code == 0x20 || code == 0x85 || code == 0xA0 || code == 0x1680
    || (0x2000 ≤ code && code ≤ 0x200A) || code == 0x2028 || code == 0x2029 || code == 0x202F
    || code == 0x205F || code == 0x3000

/-- Without the white space at both ends. -/
def trimSpace (cs : List Char) : List Char :=
  ((cs.dropWhile isSpace).reverse.dropWhile isSpace).reverse

/-- An ASCII digit. -/
def isAsciiDigit (c : Char) : Bool := '0' ≤ c && c ≤ '9'

/-- The number that ASCII digits stand for. -/
def asciiValue (digits : List Char) : Nat :=
  digits.foldl (fun value c => value * 10 + (c.toNat - '0'.toNat)) 0

/-- A sign in front, and what follows it. -/
def takeSign : List Char → Bool × List Char
  | '-' :: cs => (true, cs)
  | '+' :: cs => (false, cs)
  | cs => (false, cs)

/-- The power of ten at the end of a number, if that is all there is. -/
def exponent? : List Char → Option Int
  | [] => some 0
  | c :: cs =>
    let (negative, digits) := takeSign cs
    if (c = 'e' || c = 'E') && !digits.isEmpty && digits.all isAsciiDigit then
      some (if negative then -(asciiValue digits : Int) else asciiValue digits)
    else none

/-- The magnitude of a decimal number: digits with or without a point among them, and a power of
    ten. -/
def decimal? (cs : List Char) : Option Binary64 := do
  let whole := cs.takeWhile isAsciiDigit
  let rest := cs.dropWhile isAsciiDigit
  let (fraction, rest) :=
    match rest with
    | '.' :: tail => (tail.takeWhile isAsciiDigit, tail.dropWhile isAsciiDigit)
    | rest => ([], rest)
  if whole.isEmpty && fraction.isEmpty then none
  else
    let exponent ← exponent? rest
    return .ofDecimal (asciiValue (whole ++ fraction)) (exponent - fraction.length)

/-- The number of a text without anything around it. -/
def ofExactText? (cs : List Char) : Option Double :=
  let (negative, cs) := takeSign cs
  let word := String.ofList (cs.map Char.toLower)
  if word = "nan" then some .notANumber
  else if word = "inf" || word = "infinity" then some (.signed negative .infinite)
  else (decimal? cs).map (.signed negative)

/-- Whether two underscores follow each other. -/
def hasDoubleUnderscore : List Char → Bool
  | '_' :: '_' :: _ => true
  | _ :: cs => hasDoubleUnderscore cs
  | [] => false

/-- The text without the underscores between its digits; nothing if it has none or if they stand where
    they must not. -/
def withoutUnderscores? (cs : List Char) : Option (List Char) :=
  if cs.head? = some '_' || cs.getLast? = some '_' || !cs.contains '_' || hasDoubleUnderscore cs then
    none
  else some (cs.filter (· ≠ '_'))

/-- The number of a text. There may be white space around it, or single underscores inside it. -/
def ofText? (cs : List Char) : Option Double :=
  (ofExactText? (trimSpace cs)).orElse fun _ => (withoutUnderscores? cs).bind ofExactText?

end Double
end MarkupCleaner.Number
