import MarkupCleaner.Pattern.Alternatives
import MarkupCleaner.Pattern.CharTest
import MarkupCleaner.Pattern.Lexeme
import MarkupCleaner.Unicode.Names

/-!
# Escapes and sets

Reading what a backslash starts, outside and inside sets of characters, and reading whole sets.
-/

namespace MarkupCleaner.Pattern

/-- A digit in base eight. -/
def isOctal (c : Char) : Bool := '0' ≤ c && c ≤ '7'

/-- The number that digits in base eight stand for. -/
def octalValue (digits : List Char) : Nat :=
  digits.foldl (fun value c => value * 8 + (c.toNat - '0'.toNat)) 0

/-- The class that a letter names after a backslash. -/
def category? (c : Char) : Option Member :=
  match c with
  | 'd' => some (.category .digit false)
  | 'D' => some (.category .digit true)
  | 's' => some (.category .blank false)
  | 'S' => some (.category .blank true)
  | 'w' => some (.category .word false)
  | 'W' => some (.category .word true)
  | _ => none

/-- The control character or backslash that a character names after a backslash. -/
def control? (c : Char) : Option Nat :=
  match c with
  | 'a' => some 7
  | 'b' => some 8
  | 'f' => some 12
  | 'n' => some 10
  | 'r' => some 13
  | 't' => some 9
  | 'v' => some 11
  | '\\' => some 92
  | _ => none

/-- The condition on a place that a letter names after a backslash. -/
def anchor? (c : Char) : Option Anchor :=
  match c with
  | 'A' => some .textStart
  | 'b' => some .wordEdge
  | 'B' => some .insideWord
  | 'Z' => some .textEnd
  | _ => none

/-- Takes a fixed number of digits in base sixteen, the rest of an escape that started at `start`. -/
def takeHex (start count : Nat) (letter : Char) : Reading (List Char) := do
  let digits ← takeChars count Number.isHexDigit
  if digits.length ≠ count then refuse (.incompleteEscape ('\\' :: letter :: digits)) start
  return digits

/-- Reads the escapes that mean the same inside and outside of sets: characters by number or by name,
    and characters that stand for themselves. -/
def takeCharacter (start : Nat) (c : Char) : Reading Nat := do
  match c with
  | 'x' => return Number.hexDigitsValue (← takeHex start 2 c)
  | 'u' => return Number.hexDigitsValue (← takeHex start 4 c)
  | 'U' =>
    let digits ← takeHex start 8 c
    if 0x10FFFF < Number.hexDigitsValue digits then
      refuse (.badEscape ('\\' :: c :: digits)) start
    return Number.hexDigitsValue digits
  | 'N' =>
    if !(← accept '\x7b') then refuse .missingBrace (← here)
    let name ← takeName '\x7d' "character name"
    match Unicode.namedCode? name with
    | some code => return code
    | none => refuse (.undefinedCharacter name) start
  | c =>
    if isLetter c || isDigit c then refuse (.badEscape ['\\', c]) start
    return c.toNat

/-- Reads an octal escape whose first digit has been read. -/
def takeOctal (start : Nat) (first : Char) : Reading Nat := do
  let digits := first :: (← takeChars 2 isOctal)
  if 0o377 < octalValue digits then refuse (.octalOutOfRange ('\\' :: digits)) start
  return octalValue digits

/-- Reads an escape inside a set. -/
def takeMember (start : Nat) (c : Char) : Reading Member := do
  match control? c, category? c with
  | some code, _ => return .code code
  | none, some member => return member
  | none, none =>
    let code ← if isOctal c then takeOctal start c else takeCharacter start c
    return .code code

/-- Reads a reference to a group by its number, or a character in base eight. -/
def takeNumbered (start : Nat) (first : Char) : Reading Pattern := do
  let second ← takeChars 1 isDigit
  let octal := (first :: second).all isOctal && !second.isEmpty
  let third ← if octal then takeChars 1 isOctal else pure []
  if !third.isEmpty then
    let digits := first :: second ++ third
    if 0o377 < octalValue digits then refuse (.octalOutOfRange ('\\' :: digits)) start
    return .literal (octalValue digits)
  else
    let number := Number.digitsValue (first :: second)
    let r ← get
    if r.widths.length < number then refuse (.invalidGroup number) (start + 1)
    if !r.isClosed number then refuse .openGroup start
    checkBehind number
    return .backreference number

/-- Reads an escape outside of sets. -/
def takeEscape (start : Nat) (c : Char) : Reading Pattern := do
  match category? c, anchor? c, control? c with
  | some member, _, _ => return .set false [member]
  | none, some kind, _ => return .anchor kind
  | none, none, some code => return .literal code
  | none, none, none =>
    if c = '0' then
      let digits ← takeChars 2 isOctal
      return .literal (octalValue digits)
    else if isDigit c then takeNumbered start c
    else return .literal (← takeCharacter start c)

/-- Reads what one lexeme starts inside a set. -/
def takeSetMember (start : Nat) (lexeme : Lexeme) : Reading Member := do
  match lexeme with
  | .plain c => return .code c.toNat
  | .escaped c => takeMember start c

/-- Reads the members of a set that started at `start`, up to its closing bracket. `members` are the
    members read so far with the last one first; a closing bracket that comes first is a member. -/
def takeMembers (start : Nat) (members : List Member) : Nat → Reading (List Member)
  | 0 => refuse .unterminatedSet start
  | fuel + 1 => do
    let place ← here
    match ← next with
    | none => refuse .unterminatedSet start
    | some first =>
      if first = .plain ']' && !members.isEmpty then return members.reverse
      let low ← takeSetMember place first
      if !(← accept '-') then takeMembers start (low :: members) fuel
      else
        let place ← here
        match ← next with
        | none => refuse .unterminatedSet start
        | some (.plain ']') => return (.code '-'.toNat :: low :: members).reverse
        | some last =>
          let high ← takeSetMember place last
          let bad := Cause.badRange first.text last.text
          let length := first.text.length + 1 + last.text.length
          match low, high with
          | .code a, .code b =>
            if b < a then refuse bad ((← here) - length)
            takeMembers start (.range a b :: members) fuel
          | _, _ => refuse bad ((← here) - length)

/-- Reads a set after its opening bracket, which is at `start`. -/
def takeSet (start : Nat) : Reading Pattern := do
  let negated ← accept '^'
  let members ← takeMembers start [] ((← get).left.length + 1)
  return ofMembers negated members

end MarkupCleaner.Pattern
