import MarkupCleaner.FilePlace
import MarkupCleaner.Text.Quoted
import MarkupCleaner.Unicode.Character

/-!
# The path of the log file

The path of the log file is a template: doubled braces stand for braces, and single ones enclose the
name of something that is filled in. The only such name is that of the time; it is left as it is
written. What is filled in may be followed by a conversion after an exclamation mark and by a format
after a colon.
-/

namespace MarkupCleaner.LogPath

/-- What is wrong with a template. -/
inductive Fault where
  | singleOpening
  | singleClosing
  | openingInName
  | unclosedName
  | unclosedFormat
  | missingConversion
  | badConversion
  /-- A name that is empty or a number. -/
  | numbered
  | unknownName (name : List Char)
deriving DecidableEq, Repr

/-- The wording of a fault. -/
def Fault.message : Fault → String
  | singleOpening => "Single '\x7b' encountered in format string"
  | singleClosing => "Single '\x7d' encountered in format string"
  | openingInName => "unexpected '\x7b' in field name"
  | unclosedName => "expected '\x7d' before end of string"
  | unclosedFormat => "unmatched '\x7b' in format spec"
  | missingConversion => "end of string while looking for conversion specifier"
  | badConversion => "expected ':' after conversion specifier"
  | numbered => "Format string contains positional fields"
  | unknownName name => .ofList (Text.quotedChars name)

/-- A part of a template: text, or something to be filled in, with its name and its text. -/
inductive Part where
  | text (cs : List Char)
  | field (name whole : List Char)

/-- The name of a field, the character that ends it, and what follows. `read` are the characters of the
    name so far with the last one first; inside brackets no character ends it. -/
def takeFieldName (read : List Char) (isBracketed : Bool) :
    List Char → Except Fault (List Char × Char × List Char)
  | [] => .error .unclosedName
  | c :: cs =>
    if isBracketed then takeFieldName (c :: read) (c ≠ ']') cs
    else if c = '{' then .error .openingInName
    else if c = '}' || c = ':' || c = '!' then .ok (read.reverse, c, cs)
    else takeFieldName (c :: read) (c = '[') cs

/-- What follows the brace that closes a format; `depth` more braces than that one are open. -/
def skipFormat (depth : Nat) : List Char → Except Fault (List Char)
  | [] => .error .unclosedFormat
  | '{' :: cs => skipFormat (depth + 1) cs
  | '}' :: cs =>
    match depth with
    | 0 => .ok cs
    | depth + 1 => skipFormat depth cs
  | _ :: cs => skipFormat depth cs

/-- What follows a field whose name has been ended by `ending`. -/
def skipField (ending : Char) (cs : List Char) : Except Fault (List Char) :=
  if ending = '}' then .ok cs
  else if ending = ':' then skipFormat 0 cs
  else
    match cs with
    | [] => .error .missingConversion
    | [_] => .error .unclosedFormat
    | _ :: '}' :: rest => .ok rest
    | _ :: ':' :: rest => skipFormat 0 rest
    | _ :: _ :: _ => .error .badConversion

/-- The parts of a template. `fuel` has to exceed the number of characters left. -/
def takeParts : (fuel : Nat) → List Char → Except Fault (List Part)
  | 0, _ => .ok []
  | fuel + 1, cs =>
    match cs with
    | [] => .ok []
    | '{' :: '{' :: rest => (.text ['{'] :: ·) <$> takeParts fuel rest
    | '}' :: '}' :: rest => (.text ['}'] :: ·) <$> takeParts fuel rest
    | ['{'] => .error .singleOpening
    | '}' :: _ => .error .singleClosing
    | '{' :: rest => do
      let (name, ending, after) ← takeFieldName [] false rest
      let after ← skipField ending after
      let whole := cs.take (cs.length - after.length)
      return .field name whole :: (← takeParts fuel after)
    | c :: rest => (.text [c] :: ·) <$> takeParts fuel rest

/-- The part of a field's name that says what is filled in. -/
def leadingName (name : List Char) : List Char := name.takeWhile fun c => c ≠ '.' && c ≠ '['

/-- The text of a part. -/
def Part.fill : Part → Except Fault (List Char)
  | text cs => .ok cs
  | field name whole =>
    let name := leadingName name
    if name.all Unicode.isDecimal then .error .numbered
    else if name = "time".toList then .ok whole
    else .error (.unknownName name)

/-- The path that a template stands for. -/
def fill (template : String) : Except Fault String := do
  let parts ← takeParts (template.toList.length + 1) template.toList
  let texts ← parts.mapM Part.fill
  return .ofList texts.flatten

/-- The name of the log file in its directory. -/
def fileName : String := "figclean.jsonl"

/-- The settled path of the log file in a directory. -/
def inDirectory (directory : String) : Except Fault String :=
  FilePlace.settled <$> fill (FilePlace.inside directory fileName)

end MarkupCleaner.LogPath
