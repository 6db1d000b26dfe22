import MarkupCleaner.Markup.NameTable
import MarkupCleaner.Number.Whole

/-!
# Character references

References such as `&amp;` and `&#8364;`. Two contexts read them. In text the tokenizer has already
cut out the name or number; in attribute values the whole value is decoded here, references without
a semicolon and references glued to other letters included.
-/

namespace MarkupCleaner.Markup

/-- A named character, or a pair of characters with one name: the name, the text it stands for, and
    whether it may be written without a semicolon inside attribute values. -/
structure NamedCharacter where
  name : List Char
  text : List Char
  bare : Bool

/-- An entry of a table of names. -/
def NamedCharacter.ofEntry (bare : Bool) (entry : String × String) : NamedCharacter :=
  ⟨entry.1.toList, entry.2.toList, bare⟩

/-- The named characters of HTML. -/
def namedCharacters : List NamedCharacter :=
  bareNameTable.map (.ofEntry true) ++ closedNameTable.map (.ofEntry false)

/-- The text of a named character. -/
def namedText? (name : List Char) : Option (List Char) :=
  (namedCharacters.find? fun n => n.name = name).map NamedCharacter.text

/-- The text of a named character that may stand without a semicolon. -/
def bareText? (name : List Char) : Option (List Char) :=
  (namedCharacters.find? fun n => n.bare && n.name = name).map NamedCharacter.text

/-- The characters that the numbers 128 to 159 stand for: those of the legacy Western code page, and
    the control character itself where the code page has none. -/
def westernCharacters : List Char :=
  ['€', '\u0081', '‚', 'ƒ', '„', '…', '†', '‡', 'ˆ', '‰', 'Š', '‹', 'Œ', '\u008d', 'Ž', '\u008f',
   '\u0090', '‘', '’', '“', '”', '•', '–', '—', '˜', '™', 'š', '›', 'œ', '\u009d', 'ž', 'Ÿ']

/-- The character of a number that is neither zero nor beyond the code points nor a surrogate, if it
    is one. -/
def codeCharacter? (number : Nat) : Option Char :=
  if number = 0 then none
  else if 0x80 ≤ number ∧ number ≤ 0x9F then westernCharacters[number - 0x80]?
  else if h : number.isValidChar then some (Char.ofNatAux number h)
  else none

/-- The character that replaces a number that names none. -/
def replacementCharacter : Char := '\ufffd'

/-- The text of a numeric reference in text. -/
def numberText (number : Nat) : List Char :=
  [(codeCharacter? number).getD replacementCharacter]

/-- The numbers whose references vanish from attribute values: control characters and
    noncharacters. -/
def isVanishing (number : Nat) : Bool :=
  (0x1 ≤ number && number ≤ 0x8) || number == 0xB || (0xE ≤ number && number ≤ 0x1F)
    || number == 0x7F || (0xFDD0 ≤ number && number ≤ 0xFDEF)
    || (number % 0x10000 ≥ 0xFFFE && number ≤ 0x10FFFF)

/-- The text of a numeric reference in an attribute value. -/
def numberTextInValue (number : Nat) : List Char :=
  if isVanishing number then [] else numberText number

/-- The number of a reference written in decimal, which has a limit, or in base sixteen, which has
    none. -/
def referenceNumber (hex : Bool) (digits : List Char) : Except Number.DigitLimit Nat :=
  if hex then .ok (Number.hexDigitsValue digits) else Number.whole digits

/-- An ASCII digit. -/
def isAsciiDigit (c : Char) : Bool := '0' ≤ c && c ≤ '9'

/-- The longest beginning of `name`, of at most `length` and at least two characters, that is a named
    character which may stand without a semicolon: its text with the rest of the name. -/
def longestBare? (name : List Char) : Nat → Option (List Char)
  | 0 | 1 => none
  | length + 2 =>
    match bareText? (name.take (length + 2)) with
    | some text => some (text ++ name.drop (length + 2))
    | none => longestBare? name (length + 1)

/-- The text of a named reference in an attribute value. `closed` tells whether a semicolon ended
    it; if it was, the semicolon counts as the last character of the name. -/
def nameTextInValue (name : List Char) (closed : Bool) : List Char :=
  let written := if closed then name ++ [';'] else name
  let exact := if closed then namedText? name else bareText? name
  match exact with
  | some text => text
  | none => (longestBare? written (written.length - 1)).getD ('&' :: written)

/-- A character that may stand in the name of a reference. -/
def isReferenceChar (c : Char) : Bool :=
  !(c = '\t' || c = '\n' || c = '\x0c' || c = ' ' || c = '<' || c = '&' || c = '#' || c = ';')

/-- A reference in an attribute value, after its ampersand. -/
inductive ValueReference where
  | numbered (hex : Bool) (digits : List Char)
  | named (name : List Char) (closed : Bool)

/-- Without one leading semicolon, and whether there was one. -/
def dropSemicolon : List Char → Bool × List Char
  | ';' :: cs => (true, cs)
  | cs => (false, cs)

/-- The reference at the start of `cs`, which follow an ampersand, and the characters after it. -/
def valueReference? (cs : List Char) : Option (ValueReference × List Char) :=
  match cs with
  | '#' :: 'x' :: rest | '#' :: 'X' :: rest =>
    let digits := rest.takeWhile Number.isHexDigit
    if digits.isEmpty then none
    else some (.numbered true digits, (dropSemicolon (rest.drop digits.length)).2)
  | '#' :: rest =>
    let digits := rest.takeWhile isAsciiDigit
    if digits.isEmpty then none
    else some (.numbered false digits, (dropSemicolon (rest.drop digits.length)).2)
  | _ =>
    let name := (cs.take 32).takeWhile isReferenceChar
    if name.isEmpty then none
    else
      let (closed, rest) := dropSemicolon (cs.drop name.length)
      some (.named name closed, rest)

/-- The text of a reference in an attribute value. -/
def ValueReference.text : ValueReference → Except Number.DigitLimit (List Char)
  | .numbered hex digits => numberTextInValue <$> referenceNumber hex digits
  | .named name closed => .ok (nameTextInValue name closed)

theorem length_dropSemicolon_le (cs : List Char) : (dropSemicolon cs).2.length ≤ cs.length := by
  unfold dropSemicolon
  split <;> simp

theorem length_of_valueReference {cs rest : List Char} {r : ValueReference}
    (h : valueReference? cs = some (r, rest)) : rest.length ≤ cs.length := by
  unfold valueReference? at h
  split at h <;> (try dsimp only at h) <;> split at h <;> simp at h
  all_goals
    obtain ⟨-, rfl⟩ := h
    refine Nat.le_trans (length_dropSemicolon_le _) ?_
    simp only [List.length_drop, List.length_cons]
    omega

/-- An attribute value with its references decoded. -/
def decodeValue : List Char → Except Number.DigitLimit (List Char)
  | [] => .ok []
  | c :: cs =>
    if c = '&' then
      match _h : valueReference? cs with
      | some (r, rest) => do
        let text ← r.text
        let decoded ← decodeValue rest
        return text ++ decoded
      | none => do
        let decoded ← decodeValue cs
        return c :: decoded
    else do
      let decoded ← decodeValue cs
      return c :: decoded
termination_by cs => cs.length
decreasing_by
  all_goals
    simp only [List.length_cons]
    first
      | exact Nat.lt_succ_of_le (length_of_valueReference ‹_›)
      | exact Nat.lt_succ_self _

end MarkupCleaner.Markup
