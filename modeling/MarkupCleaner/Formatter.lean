import MarkupCleaner.Log
import MarkupCleaner.Number.Double
import MarkupCleaner.Text.Blank

/-!
# The external formatter

A formatter is a program that reads code and writes it back in a nicer layout. Whatever goes wrong
with it is logged, and the code is then kept as it is; a run that succeeds is taken at its word unless
it wrote nothing.
-/

namespace MarkupCleaner

/-- A formatter: how its command line starts, and after how many seconds it is stopped. -/
structure Formatter where
  command : List String := ["prettier"]
  timeout : Number.Double := .signed false (.ofNat 10)
deriving DecidableEq, Repr

namespace Formatter

/-- What became of a run of the formatter. -/
inductive Outcome where
  /-- There is no such program. -/
  | missing
  | timedOut
  | notStarted (reason : String)
  /-- The text that went in or came out is not valid. -/
  | invalidText (reason : String)
  /-- The program reports a failure. -/
  | failed (code : Int) (complaint : Option String)
  | finished (text : String)
deriving DecidableEq, Repr

/-- The grammar that the formatter is told to use for a target. -/
def grammar (target : String) : String := if target = "react" then "babel-ts" else "html"

/-- The arguments for a target. -/
def arguments (target : String) : List String :=
  ["--parser", grammar target, "--print-width", "80", "--single-quote", "--trailing-comma", "none"]

/-- The whole command line for a target. -/
def commandLine (f : Formatter) (target : String) : List String := f.command ++ arguments target

/-- A complaint of the formatter, cut to its first two hundred characters. -/
def shortComplaint (complaint : Option String) : String :=
  .ofList ((Text.trim (complaint.getD "").toList).take 200)

/-- Why the code is kept, if an outcome does not replace it. -/
def refusal? (f : Formatter) (target : String) : Outcome → Option String
  | .missing =>
    some ("Formatter not found (" ++ (f.commandLine target).headD "" ++ "), returning unformatted "
      ++ target ++ " output")
  | .timedOut =>
    some ("Formatter timed out after " ++ f.timeout.text ++ "s, returning unformatted output")
  | .failed code complaint =>
    some ("Formatter exited with " ++ toString code ++ ": " ++ shortComplaint complaint)
  | .notStarted reason => some ("Formatter could not be started: " ++ reason)
  | .invalidText reason =>
    some ("Formatter text is not valid UTF-8, returning unformatted output: " ++ reason)
  | .finished text =>
    if Text.isBlank text then some "Formatter returned empty output, keeping unformatted code"
    else none

/-- The code after an outcome, and what is logged about it. -/
def settle (f : Formatter) (target code : String) (outcome : Outcome) : String × Log :=
  match f.refusal? target outcome, outcome with
  | none, .finished text => (text, [])
  | none, _ => (code, [])
  | some message, _ => (code, [⟨.warning, message⟩])

end Formatter
end MarkupCleaner
