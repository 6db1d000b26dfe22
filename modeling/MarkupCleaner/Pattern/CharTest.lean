import MarkupCleaner.Pattern.Basic
import MarkupCleaner.Text.Blank
import MarkupCleaner.Unicode.Caseless
import MarkupCleaner.Unicode.Character

/-!
# Tests of one character

What a pattern asks of a single character, with the flags in force already taken into account. Without
regard to case a character is compared by its lower-case letter.
-/

namespace MarkupCleaner.Pattern

/-- An ASCII digit. -/
def isDigit (c : Char) : Bool := '0' ≤ c && c ≤ '9'

/-- An ASCII letter. -/
def isLetter (c : Char) : Bool := ('a' ≤ c && c ≤ 'z') || ('A' ≤ c && c ≤ 'Z')

/-- How far case is disregarded. -/
inductive Folding where
  | exact
  | ascii
  | unicode
deriving DecidableEq, Repr

namespace Folding

/-- The folding that flags ask for. -/
def ofFlags (flags : Flags) : Folding :=
  if !flags.on .ignoreCase then exact else if flags.on .ascii then ascii else unicode

/-- The code point by which a code point is compared. -/
def fold (folding : Folding) (code : Nat) : Nat :=
  match folding with
  | exact => code
  | ascii => if 0x41 ≤ code && code ≤ 0x5A then code + 32 else code
  | unicode => Unicode.lowerCode code

/-- The folded code points that count as the same as a folded one. -/
def alike (folding : Folding) (code : Nat) : List Nat :=
  match folding with
  | unicode => Unicode.caseClass code
  | _ => [code]

/-- The code points that count as the same as a folded one. -/
def sources (folding : Folding) (code : Nat) : List Nat :=
  match folding with
  | exact => [code]
  | ascii => if 0x61 ≤ code && code ≤ 0x7A then [code, code - 32] else [code]
  | unicode => Unicode.caseVariants code

/-- Whether a code point from `first` to `last` counts as the same as another one. -/
def anyCased (folding : Folding) (first last : Nat) : Bool :=
  match folding with
  | exact => false
  | ascii => (first ≤ 0x5A && 0x41 ≤ last) || (first ≤ 0x7A && 0x61 ≤ last)
  | unicode => Unicode.anyCased first last

end Folding

/-- Whether a character is in a class. The classes of ASCII hold ASCII only. -/
def Category.holds (ascii : Bool) (kind : Category) (c : Char) : Bool :=
  if ascii then
    match kind with
    | .digit => isDigit c
    | .blank => c = ' ' || ('\t' ≤ c && c ≤ '\r')
    | .word => isDigit c || isLetter c || c = '_'
  else
    match kind with
    | .digit => Unicode.isDecimal c
    | .blank => Text.isBlankChar c
    | .word => Unicode.isWord c

namespace Member

/-- Whether a character belongs to a member, with regard to case. -/
def holds (ascii : Bool) (c : Char) : Member → Bool
  | code value => c.toNat = value
  | range first last => first ≤ c.toNat && c.toNat ≤ last
  | category kind negated => kind.holds ascii c != negated

/-- The last code point of the plane in which sets are folded member by member. -/
def lastFolded : Nat := 0xFFFF

/-- Whether folding has to be taken into account for a member. -/
def isCased (folding : Folding) : Member → Bool
  | code value => folding.anyCased value value || lastFolded < folding.fold value
  | range first last => folding.anyCased first last || lastFolded < last
  | category .. => false

/-- Whether a character that has been folded belongs to a member. Beyond the first plane a single
    character stands for itself, and a range holds a character if it holds the capital of it. -/
def holdsFolded (folding : Folding) (ascii : Bool) (c : Char) : Member → Bool
  | code value =>
    if lastFolded < folding.fold value then c.toNat = value
    else (folding.alike (folding.fold value)).contains c.toNat
  | range first last =>
    let isInside := fun code => decide (first ≤ code ∧ code ≤ last)
    (folding.sources c.toNat).any (fun code => isInside code && code ≤ lastFolded)
      || (lastFolded < last && (isInside c.toNat || isInside (Unicode.upperCode c.toNat)))
  | category kind negated => kind.holds ascii c != negated

end Member

/-- A test of one character. -/
inductive CharTest where
  /-- Any character. -/
  | any
  /-- Any character but the line feed. -/
  | inLine
  /-- A character that is the same as the given one once it has been folded. -/
  | letter (folding : Folding) (negated : Bool) (code : Nat)
  /-- A character that belongs to a member once it has been folded. -/
  | set (folding : Folding) (ascii negated : Bool) (members : List Member)
deriving DecidableEq, Repr

namespace CharTest

/-- Whether a character passes a test. -/
def holds (c : Char) : CharTest → Bool
  | any => true
  | inLine => c ≠ '\n'
  | letter folding negated code => (folding.fold c.toNat == code) != negated
  | set .exact ascii negated members => members.any (Member.holds ascii c) != negated
  | set folding ascii negated members =>
    members.any (Member.holdsFolded folding ascii (Char.ofNat (folding.fold c.toNat))) != negated

/-- The test for a character or, negated, for all others. A character without case is compared
    exactly; one with other forms than its two cases is a set. -/
def ofLiteral (flags : Flags) (negated : Bool) (code : Nat) : CharTest :=
  let folding := Folding.ofFlags flags
  if !folding.anyCased code code then letter .exact negated code
  else
    let low := folding.fold code
    if 1 < (folding.alike low).length then set folding (flags.on .ascii) negated [.code low]
    else letter folding negated low

/-- The test for a set. A set whose members have no case is compared exactly. -/
def ofMembers (flags : Flags) (negated : Bool) (members : List Member) : CharTest :=
  let folding := Folding.ofFlags flags
  set (if members.any (Member.isCased folding) then folding else .exact) (flags.on .ascii) negated
    members

/-- Whether a test is for one character as it is. -/
def exactly? : CharTest → Option Nat
  | letter .exact false code => some code
  | _ => none

/-- Whether a test compares characters with the folded members of a set. -/
def isFoldedSet : CharTest → Bool
  | set .exact .. => false
  | set .. => true
  | _ => false

end CharTest

/-- The test that a pattern of one character comes to. -/
def charTest? (flags : Flags) : Pattern → Option CharTest
  | literal code => some (.ofLiteral flags false code)
  | notLiteral code => some (.ofLiteral flags true code)
  | any => some (if flags.on .dotAll then .any else .inLine)
  | set negated members => some (.ofMembers flags negated members)
  | _ => none

/-- The test that a pattern comes to if it is a single character, perhaps inside groups that set
    flags. -/
def unitTest? (flags : Flags) : Pattern → Option CharTest
  | seq p empty => p.unitTest? flags
  | flagged added removed p => p.unitTest? (flags.within added removed)
  | p => p.charTest? flags

end MarkupCleaner.Pattern
