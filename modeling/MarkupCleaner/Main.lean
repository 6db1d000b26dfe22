import MarkupCleaner.CommandLine.Run
import MarkupCleaner.Text.StringLiteral

/-!
# The program

The command line on the file system. The program starts no other programs, so a formatter is never
found.
-/

namespace MarkupCleaner

/-- A failure of the file system at a path. -/
def fileFault (path : String) (e : IO.Error) : FileFault :=
  match e with
  | .noFileOrDirectory .. => .missing path
  | .alreadyExists .. => .alreadyThere path
  | .inappropriateType .. => .isDirectory path
  | e => .other (toString e)

/-- Carries an operation at a path out and catches its failure. -/
def onDisk {α : Type} (path : String) (operation : IO α) : IO (Except FileFault α) := do
  if path.toList.contains '\x00' then return .error .nullByte
  try
    return .ok (← operation)
  catch e => return .error (fileFault path e)

/-- The bytes of the file at a path. -/
def readFromDisk (path : String) : IO (Except FileFault (List UInt8)) :=
  onDisk path do return (← IO.FS.readBinFile path).toList

/-- Makes an empty file unless there is a file. -/
def createOnDisk (path : String) : IO (Except FileFault Unit) :=
  onDisk path do
    IO.FS.createDirAll (FilePlace.directory path)
    let _ ← IO.FS.Handle.mk path .append

/-- The variables of the environment that are settings, in capitals or small letters. -/
def settingsVariables : IO (List (String × String)) := do
  let mut found := []
  for field in Settings.fieldNames do
    let name := Settings.lead ++ field
    for name in [name, name.map Char.toUpper] do
      if let some value ← IO.getEnv name then found := found ++ [(name, value)]
  return found

/-- The text on standard input. -/
def readStandardInput : IO (Except FileFault String) := do
  return textOfBytes (← (← IO.getStdin).readBinToEnd).toList

/-- The surroundings of a run on the file system. -/
def fileSystem : Host IO where
  environment := settingsVariables
  readFile := readFromDisk
  makeDirectories path := onDisk path (IO.FS.createDirAll path)
  createFile := createOnDisk
  readInput := readStandardInput
  runFormatter _ _ _ := return .missing

/-- A message as a line of a log file. -/
def fileLine (e : Entry) : String :=
  "\x7b\"level\": " ++ .ofList (Text.stringLiteral e.level.name.toList) ++ ", \"message\": "
    ++ .ofList (Text.stringLiteral e.message.toList) ++ "\x7d\n"

/-- Adds messages to a log file. -/
def writeLog (path : String) (log : Log) : IO Unit := do
  let file ← IO.FS.Handle.mk path .append
  for e in log do file.putStr (fileLine e)

/-- Shows what a run has come to and gives its status. -/
def conclude : CommandLine.Ending → IO UInt32
  | .usage => do
    IO.eprintln "The arguments are not acceptable."
    return 2
  | .unreadableVariable fault => do
    IO.eprintln fault.message
    return 1
  | .invalidSettings issues => do
    for issue in issues do IO.eprintln (issue.placeText ++ ": " ++ issue.complaint.message)
    return 1
  | .unusableLog fault => do
    IO.eprintln fault.message
    return 1
  | .unusablePath fault => do
    IO.eprintln fault.message
    return 1
  | .reported report => do
    for (path, log) in report.files do writeLog path log
    for e in report.shown do IO.eprintln (e.level.name ++ " | " ++ e.message)
    IO.print report.output
    return report.status.toUInt32

end MarkupCleaner

/-- Runs the command line. -/
def main (arguments : List String) : IO UInt32 := do
  MarkupCleaner.conclude (← MarkupCleaner.CommandLine.run MarkupCleaner.fileSystem arguments)
