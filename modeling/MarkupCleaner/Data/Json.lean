import MarkupCleaner.Data.Value
import MarkupCleaner.Number.Whole

/-!
# Reading JSON text

A text is cut into marks and words first, and the value is read off them. A text that is not
well-formed has no value, and neither has one with a whole number of too many digits.
-/

namespace MarkupCleaner.Json

/-- A piece of JSON text. -/
inductive Piece where
  | openArray
  | closeArray
  | openObject
  | closeObject
  | comma
  | colon
  | string (value : String)
  /-- A value that stands alone: a number or one of the words. -/
  | atom (value : Value)

/-- White space between pieces. -/
def isGap (c : Char) : Bool := c = ' ' || c = '\t' || c = '\n' || c = '\r'

/-- The words that are values. -/
def words : List (List Char × Value) :=
  [("null".toList, .null), ("true".toList, .bool true), ("false".toList, .bool false),
   ("NaN".toList, .real .notANumber),
   ("Infinity".toList, .real (.signed false .infinite)),
   ("-Infinity".toList, .real (.signed true .infinite))]

/-- The word at the front, and what follows it. -/
def takeWord? (cs : List Char) : Option (Value × List Char) :=
  words.findSome? fun (word, v) => if word.isPrefixOf cs then some (v, cs.drop word.length) else none

/-- The code unit of four digits in base sixteen, and what follows them. -/
def takeUnit? (cs : List Char) : Option (Nat × List Char) :=
  let digits := cs.take 4
  if digits.length = 4 && digits.all Number.isHexDigit then
    some (Number.hexDigitsValue digits, cs.drop 4)
  else none

/-- The character of an escape that is one letter long. -/
def escaped? (c : Char) : Option Char :=
  match c with
  | '"' => some '"'
  | '\\' => some '\\'
  | '/' => some '/'
  | 'b' => some '\x08'
  | 'f' => some '\x0c'
  | 'n' => some '\n'
  | 'r' => some '\r'
  | 't' => some '\t'
  | _ => none

/-- The character of a code unit and what follows it. Two units that belong together are one
    character, and one without its partner is the replacement character. -/
def joinUnits (unit : Nat) (cs : List Char) : Char × List Char :=
  if 0xD800 ≤ unit && unit < 0xDC00 then
    match cs with
    | '\\' :: 'u' :: rest =>
      match takeUnit? rest with
      | some (low, after) =>
        if 0xDC00 ≤ low && low < 0xE000 then
          (Char.ofNat (0x10000 + (unit - 0xD800) * 0x400 + (low - 0xDC00)), after)
        else ('\uFFFD', cs)
      | none => ('\uFFFD', cs)
    | _ => ('\uFFFD', cs)
  else if 0xDC00 ≤ unit && unit < 0xE000 then ('\uFFFD', cs)
  else (Char.ofNat unit, cs)

/-- The characters up to the closing quote after those that have been read, which are given in reverse
    order, and what follows the quote. `fuel` has to exceed the number of characters left. -/
def takeStringAfter? (read : List Char) : (fuel : Nat) → List Char → Option (List Char × List Char)
  | 0, _ => none
  | fuel + 1, cs =>
    match cs with
    | [] => none
    | '"' :: rest => some (read.reverse, rest)
    | '\\' :: 'u' :: rest =>
      match takeUnit? rest with
      | none => none
      | some (unit, rest) =>
        let (c, rest) := joinUnits unit rest
        takeStringAfter? (c :: read) fuel rest
    | '\\' :: e :: rest =>
      match escaped? e with
      | none => none
      | some c => takeStringAfter? (c :: read) fuel rest
    | c :: rest => if c.toNat < 0x20 then none else takeStringAfter? (c :: read) fuel rest

/-- The digits at the front, and what follows them. -/
def takeDigits (cs : List Char) : List Char × List Char :=
  (cs.takeWhile Number.Double.isAsciiDigit, cs.dropWhile Number.Double.isAsciiDigit)

/-- The fraction at the front: a point and at least one digit. -/
def takeFraction (cs : List Char) : List Char × List Char :=
  match cs with
  | '.' :: rest => if (takeDigits rest).1.isEmpty then ([], cs) else takeDigits rest
  | _ => ([], cs)

/-- The power of ten at the front, if there is one. -/
def takeExponent (cs : List Char) : Option Int × List Char :=
  match cs with
  | c :: rest =>
    let (negative, rest) := Number.Double.takeSign rest
    let (digits, rest) := takeDigits rest
    if (c = 'e' || c = 'E') && !digits.isEmpty then
      let value : Int := Number.Double.asciiValue digits
      (some (if negative then -value else value), rest)
    else (none, cs)
  | [] => (none, cs)

/-- The number at the front, and what follows it. Only the number zero starts with a zero. It is a
    whole number if it has neither a fraction nor a power of ten. -/
def takeNumber? (cs : List Char) : Option (Value × List Char) :=
  let (negative, cs) :=
    match cs with
    | '-' :: rest => (true, rest)
    | cs => (false, cs)
  let (whole, rest) :=
    match cs with
    | '0' :: rest => (['0'], rest)
    | cs => takeDigits cs
  let (fraction, rest) := takeFraction rest
  let (exponent, rest) := takeExponent rest
  if whole.isEmpty then none
  else if fraction.isEmpty && exponent.isNone then
    if Number.maxDigits < whole.length then none
    else
      let n : Int := Number.Double.asciiValue whole
      some (.int (if negative then -n else n), rest)
  else
    let magnitude : Number.Binary64 :=
      .ofDecimal (Number.Double.asciiValue (whole ++ fraction)) (exponent.getD 0 - fraction.length)
    some (.real (.signed negative magnitude), rest)

/-- The piece at the front, and what follows it. `fuel` has to reach the number of characters left. -/
def takePiece? (fuel : Nat) (cs : List Char) : Option (Piece × List Char) :=
  match cs with
  | '[' :: rest => some (.openArray, rest)
  | ']' :: rest => some (.closeArray, rest)
  | '{' :: rest => some (.openObject, rest)
  | '}' :: rest => some (.closeObject, rest)
  | ',' :: rest => some (.comma, rest)
  | ':' :: rest => some (.colon, rest)
  | '"' :: rest => (takeStringAfter? [] fuel rest).map fun (s, rest) => (.string (.ofList s), rest)
  | cs => ((takeWord? cs).orElse fun _ => takeNumber? cs).map fun (v, rest) => (.atom v, rest)

/-- The pieces of a text after those that have been read, which are given in reverse order. `fuel` has
    to exceed the number of characters left. -/
def takePiecesAfter? (read : List Piece) : (fuel : Nat) → List Char → Option (List Piece)
  | 0, _ => none
  | fuel + 1, cs =>
    match cs.dropWhile isGap with
    | [] => some read.reverse
    | cs =>
      match takePiece? (fuel + 1) cs with
      | none => none
      | some (piece, rest) => takePiecesAfter? (piece :: read) fuel rest

/-- The pieces of a text. -/
def takePieces? (cs : List Char) : Option (List Piece) := takePiecesAfter? [] (cs.length + 1) cs

mutual

/-- The value at the front, and the pieces after it. `fuel` has to exceed twice the number of
    pieces. -/
def readValue? : (fuel : Nat) → List Piece → Option (Value × List Piece)
  | 0, _ => none
  | fuel + 1, ps =>
    match ps with
    | .atom v :: rest => some (v, rest)
    | .string s :: rest => some (.string s, rest)
    | .openArray :: .closeArray :: rest => some (.array [], rest)
    | .openArray :: rest => (readItems? fuel rest).map fun (items, rest) => (.array items, rest)
    | .openObject :: .closeObject :: rest => some (.object [], rest)
    | .openObject :: rest => (readFields? fuel rest).map fun (fields, rest) => (.object fields, rest)
    | _ => none

/-- At least one item up to the closing bracket, and the pieces after it. -/
def readItems? : (fuel : Nat) → List Piece → Option (List Value × List Piece)
  | 0, _ => none
  | fuel + 1, ps => do
    let (item, rest) ← readValue? fuel ps
    match rest with
    | .closeArray :: rest => return ([item], rest)
    | .comma :: rest =>
      let (items, rest) ← readItems? fuel rest
      return (item :: items, rest)
    | _ => none

/-- At least one field up to the closing brace, and the pieces after it. -/
def readFields? : (fuel : Nat) → List Piece → Option (List (String × Value) × List Piece)
  | 0, _ => none
  | fuel + 1, ps =>
    match ps with
    | .string name :: .colon :: ps => do
      let (v, rest) ← readValue? fuel ps
      match rest with
      | .closeObject :: rest => return ([(name, v)], rest)
      | .comma :: rest =>
        let (fields, rest) ← readFields? fuel rest
        return ((name, v) :: fields, rest)
      | _ => none
    | _ => none

end

/-- The value of a text. -/
def read? (cs : List Char) : Option Value := do
  let pieces ← takePieces? cs
  match ← readValue? (2 * pieces.length + 1) pieces with
  | (v, []) => return v
  | _ => none

end MarkupCleaner.Json
