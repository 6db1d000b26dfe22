import MarkupCleaner.Number.Whole
import MarkupCleaner.Text.Quoted

/-!
# Why markup is refused

Nearly all malformed markup is mended. Three things are refused: a marked section without a name, a
marked section of an unknown kind, and a numeric reference with too many digits.
-/

namespace MarkupCleaner

/-- The cause of a refusal. -/
inductive ParseError where
  /-- A marked section starts with something else than a name; the characters from its start on. -/
  | sectionNameExpected (near : List Char)
  /-- A marked section has an unknown keyword. -/
  | unknownSection (keyword : List Char)
  /-- A numeric character reference has too many digits. -/
  | tooManyDigits (limit : Number.DigitLimit)
deriving DecidableEq, Repr

namespace ParseError

/-- The wording of a refusal by the tokenizer. -/
def rejection (reason : String) : String :=
  "The markup you provided was rejected by the parser. Trying a different parser or a different "
    ++ "encoding may help.\n\nOriginal exception(s) from parser:\n AssertionError: " ++ reason

/-- The wording of the cause. -/
def cause : ParseError → String
  | sectionNameExpected near =>
    rejection ("expected name token at " ++ .ofList (Text.quotedChars near))
  | unknownSection keyword =>
    rejection ("unknown status keyword " ++ .ofList (Text.quotedChars keyword)
      ++ " in marked section")
  | tooManyDigits limit => limit.message

/-- The wording of the refusal. -/
def message (e : ParseError) : String := "Could not parse markup: " ++ e.cause

end ParseError
end MarkupCleaner
