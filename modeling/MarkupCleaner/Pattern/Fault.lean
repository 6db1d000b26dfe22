import MarkupCleaner.Number.Whole
import MarkupCleaner.Text.Quoted

/-!
# Why a pattern is refused

A pattern can be malformed, which has a cause and mostly a place, or it can break a limit of the
language, which is no malformation and is reported differently.
-/

namespace MarkupCleaner.Pattern

/-- What is wrong with a malformed pattern. -/
inductive Cause where
  | danglingEscape
  | badEscape (text : List Char)
  | incompleteEscape (text : List Char)
  | octalOutOfRange (text : List Char)
  | missingBrace
  | undefinedCharacter (name : List Char)
  | openGroup
  | groupInLookbehind
  | invalidGroup (number : Nat)
  | unterminatedSet
  | badRange (first last : List Char)
  | leastAboveMost
  | nothingToRepeat
  | repeatedRepetition
  | unexpectedEnd
  | missingName (kind : String)
  | unterminatedName (terminator : Char)
  | badGroupName (name : List Char)
  | unknownGroupName (name : List Char)
  | groupRedefined (name : List Char) (new old : Nat)
  | groupZero
  | unknownExtension (text : List Char)
  | unterminatedComment
  | unterminatedGroup
  | thirdBranch
  | misplacedFlags
  | localeFlag
  | incompatibleFlags
  | flagsNotClosed
  | unknownFlag
  | missingFlag
  | flagNotScoped (added : Bool)
  | flagNotRemovable
  | colonExpected
  | flagAddedAndRemoved
  | unbalancedParenthesis
  | lookbehindWidth
  | templateRepetition (operator : String)
deriving DecidableEq, Repr

/-- The wording of a cause. -/
def Cause.message : Cause → String
  | danglingEscape => "bad escape (end of pattern)"
  | badEscape text => "bad escape " ++ .ofList text
  | incompleteEscape text => "incomplete escape " ++ .ofList text
  | octalOutOfRange text => "octal escape value " ++ .ofList text ++ " outside of range 0-0o377"
  | missingBrace => "missing \x7b"
  | undefinedCharacter name => "undefined character name " ++ .ofList (Text.quotedChars name)
  | openGroup => "cannot refer to an open group"
  | groupInLookbehind => "cannot refer to group defined in the same lookbehind subpattern"
  | invalidGroup number => "invalid group reference " ++ toString number
  | unterminatedSet => "unterminated character set"
  | badRange first last => "bad character range " ++ .ofList (first ++ '-' :: last)
  | leastAboveMost => "min repeat greater than max repeat"
  | nothingToRepeat => "nothing to repeat"
  | repeatedRepetition => "multiple repeat"
  | unexpectedEnd => "unexpected end of pattern"
  | missingName kind => "missing " ++ kind
  | unterminatedName terminator => "missing " ++ terminator.toString ++ ", unterminated name"
  | badGroupName name => "bad character in group name " ++ .ofList (Text.quotedChars name)
  | unknownGroupName name => "unknown group name " ++ .ofList (Text.quotedChars name)
  | groupRedefined name new old =>
    "redefinition of group name " ++ .ofList (Text.quotedChars name) ++ " as group " ++ toString new
      ++ "; was group " ++ toString old
  | groupZero => "bad group number"
  | unknownExtension text => "unknown extension " ++ .ofList text
  | unterminatedComment => "missing ), unterminated comment"
  | unterminatedGroup => "missing ), unterminated subpattern"
  | thirdBranch => "conditional backref with more than two branches"
  | misplacedFlags => "global flags not at the start of the expression"
  | localeFlag => "bad inline flags: cannot use 'L' flag with a str pattern"
  | incompatibleFlags => "bad inline flags: flags 'a', 'u' and 'L' are incompatible"
  | flagsNotClosed => "missing -, : or )"
  | unknownFlag => "unknown flag"
  | missingFlag => "missing flag"
  | flagNotScoped true => "bad inline flags: cannot turn on global flag"
  | flagNotScoped false => "bad inline flags: cannot turn off global flag"
  | flagNotRemovable => "bad inline flags: cannot turn off flags 'a', 'u' and 'L'"
  | colonExpected => "missing :"
  | flagAddedAndRemoved => "bad inline flags: flag turned on and off"
  | unbalancedParenthesis => "unbalanced parenthesis"
  | lookbehindWidth => "look-behind requires fixed-width pattern"
  | templateRepetition operator => "internal: unsupported template operator " ++ operator

/-- Why a pattern is refused. -/
inductive Fault where
  /-- The pattern is malformed, at a place if one can be named. -/
  | malformed (cause : Cause) (place : Option Nat)
  /-- A bound of a repetition is too large. -/
  | repetitionTooLarge
  /-- A bound of a repetition has too many digits. -/
  | tooManyDigits (limit : Number.DigitLimit)
  /-- Two flags that choose the classes of characters are set for the whole pattern. -/
  | conflictingFlags
  /-- A lookbehind is too wide. -/
  | lookbehindTooFar
deriving DecidableEq, Repr

/-- The wording of a place in a pattern. Line and column are told if the pattern has several
    lines. -/
def placeText (pattern : List Char) (place : Nat) : String :=
  let lead := pattern.take place
  let column := (lead.reverse.takeWhile (· ≠ '\n')).length + 1
  " at position " ++ toString place ++
    (if pattern.contains '\n' then
      " (line " ++ toString (lead.count '\n' + 1) ++ ", column " ++ toString column ++ ")"
    else "")

/-- The wording of a refusal of a pattern. -/
def Fault.message (pattern : List Char) : Fault → String
  | malformed cause none => cause.message
  | malformed cause (some place) => cause.message ++ placeText pattern place
  | repetitionTooLarge => "the repetition number is too large"
  | tooManyDigits limit => limit.message
  | conflictingFlags => "ASCII and UNICODE flags are incompatible"
  | lookbehindTooFar => "invalid SRE code"

end MarkupCleaner.Pattern
