import MarkupCleaner.Formatter
import MarkupCleaner.FilePlace
import MarkupCleaner.Text.Quoted
import MarkupCleaner.Text.Utf8

/-!
# What a run needs from outside

The surroundings of a run: variables, files, the text that is sent to it, and the formatter. A run
uses them through a record of operations, so that it can be carried out on files in memory as well.
-/

namespace MarkupCleaner

/-- Why something cannot be done with a path, or its bytes are no text. -/
inductive FileFault where
  | missing (path : String)
  | alreadyThere (path : String)
  | isDirectory (path : String)
  /-- Something on the way is no directory. -/
  | noDirectory (path : String)
  | tooLong (path : String)
  /-- The path contains the null character, so that it is no path at all. -/
  | nullByte
  | notText (fault : Text.Utf8Fault)
  | other (message : String)
deriving DecidableEq, Repr

namespace FileFault

/-- The wording of the cause for which bytes are no text. -/
def causeText : Text.Utf8Cause → String
  | .invalidStart => "invalid start byte"
  | .invalidContinuation => "invalid continuation byte"
  | .unexpectedEnd => "unexpected end of data"

/-- The wording of the bytes that are no text, and of their place. -/
def bytesText (fault : Text.Utf8Fault) : String :=
  match fault.bytes with
  | [b] =>
    "byte 0x" ++ .ofList (Text.paddedHex 2 b.toNat) ++ " in position " ++ toString fault.place
  | bytes =>
    "bytes in position " ++ toString fault.place ++ "-" ++ toString (fault.place + bytes.length - 1)

/-- The wording of a fault. -/
def message : FileFault → String
  | missing path => "[Errno 2] No such file or directory: " ++ Text.quoted path
  | alreadyThere path => "[Errno 17] File exists: " ++ Text.quoted path
  | noDirectory path => "[Errno 20] Not a directory: " ++ Text.quoted path
  | isDirectory path => "[Errno 21] Is a directory: " ++ Text.quoted path
  | tooLong path => "[Errno 36] File name too long: " ++ Text.quoted path
  | nullByte => "embedded null byte"
  | notText fault =>
    "'utf-8' codec can't decode " ++ bytesText fault ++ ": " ++ causeText fault.cause
  | other message => message

end FileFault

/-- The operations that a run needs. -/
structure Host (m : Type → Type) where
  /-- The variables of the environment. -/
  environment : m (List (String × String))
  /-- The bytes of the file at a path. -/
  readFile : String → m (Except FileFault (List UInt8))
  /-- Makes the directory at a path and those that it lies in, as far as they are missing. -/
  makeDirectories : String → m (Except FileFault Unit)
  /-- Makes an empty file at a path unless there is a file. -/
  createFile : String → m (Except FileFault Unit)
  /-- The text that is sent to the run. -/
  readInput : m (Except FileFault String)
  /-- Runs a formatter on code; the command line comes first. -/
  runFormatter : List String → String → Number.Double → m Formatter.Outcome

/-- The text of bytes, with every end of line written as a line feed. -/
def textOfBytes (bytes : List UInt8) : Except FileFault String :=
  match Text.ofUtf8 bytes with
  | .ok cs => .ok (.ofList (Text.withLineFeeds cs))
  | .error fault => .error (.notText fault)

/-- The text of the file at a path. -/
def Host.readText {m : Type → Type} [Monad m] (host : Host m) (path : String) :
    m (Except FileFault String) := do
  return (← host.readFile path).bind textOfBytes

end MarkupCleaner
