import MarkupCleaner.Unicode.LetterTable
import MarkupCleaner.Unicode.NumberTable
import MarkupCleaner.Unicode.MarkTable
import MarkupCleaner.Unicode.PrintableTable

/-!
# Character classes

The classes of characters that the pattern language, identifiers and quoted text are defined by.
Each is a union of general categories of Unicode 14 with the few exceptions its standard lists.
-/

namespace MarkupCleaner.Unicode

/-- A decimal digit of any script. -/
def isDecimal (c : Char) : Bool := decimalRanges.covers c.toNat

/-- The value of a decimal digit: every script lists its digits from zero to nine in order. -/
def decimalValue? (c : Char) : Option Nat :=
  (decimalRanges.find? fun r => r.1 ≤ c.toNat && c.toNat ≤ r.2).map fun r => (c.toNat - r.1) % 10

/-- A letter of any script. -/
def isLetter (c : Char) : Bool := letterRanges.covers c.toNat

/-- A letter or a numeric character, superscripts and fractions included. -/
def isAlphanumeric (c : Char) : Bool :=
  isLetter c || decimalRanges.covers c.toNat || letterNumberRanges.covers c.toNat
    || otherNumberRanges.covers c.toNat

/-- A character of a word: a letter, a numeric character or the underscore. -/
def isWord (c : Char) : Bool := c = '_' || isAlphanumeric c

/-- The letters that are excluded from the start of an identifier because their compatibility form
    does not start one. -/
def identifierStartExclusions : CodeRanges :=
  [(0x37A, 0x37A), (0xE33, 0xE33), (0xEB3, 0xEB3), (0x2E2F, 0x2E2F), (0xFC5E, 0xFC63),
   (0xFDFA, 0xFDFB), (0xFE70, 0xFE70), (0xFE72, 0xFE72), (0xFE74, 0xFE74), (0xFE76, 0xFE76),
   (0xFE78, 0xFE78), (0xFE7A, 0xFE7A), (0xFE7C, 0xFE7C), (0xFE7E, 0xFE7E), (0xFF9E, 0xFF9F)]

/-- The characters outside the letters that may start an identifier. -/
def identifierStartAdditions : CodeRanges :=
  [(0x5F, 0x5F), (0x1885, 0x1886), (0x2118, 0x2118), (0x212E, 0x212E)]

/-- A character that may start an identifier. -/
def isIdentifierStart (c : Char) : Bool :=
  identifierStartAdditions.covers c.toNat
    || ((isLetter c || letterNumberRanges.covers c.toNat)
        && !identifierStartExclusions.covers c.toNat)

/-- The characters outside marks, digits and starting characters that may continue an identifier:
    connecting punctuation and the characters the standard adds by name. -/
def identifierContinueAdditions : CodeRanges :=
  [(0x5F, 0x5F), (0xB7, 0xB7), (0x387, 0x387), (0xE33, 0xE33), (0xEB3, 0xEB3),
   (0x1369, 0x1371), (0x19DA, 0x19DA), (0x203F, 0x2040), (0x2054, 0x2054), (0xFE33, 0xFE34),
   (0xFE4D, 0xFE4F), (0xFF3F, 0xFF3F), (0xFF9E, 0xFF9F)]

/-- A character that may continue an identifier. -/
def isIdentifierContinue (c : Char) : Bool :=
  isIdentifierStart c || isDecimal c || markRanges.covers c.toNat
    || identifierContinueAdditions.covers c.toNat

/-- Whether a text is an identifier: a starting character, then continuing ones. -/
def isIdentifier : List Char → Bool
  | [] => false
  | c :: cs => isIdentifierStart c && cs.all isIdentifierContinue

/-- A character that quoted text shows as it is. -/
def isPrintable (c : Char) : Bool := printableRanges.covers c.toNat

end MarkupCleaner.Unicode
