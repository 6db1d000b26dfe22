import MarkupCleaner.CommandLine.Host
import MarkupCleaner.LogOutput
import MarkupCleaner.LogPath

/-!
# Setting up the log

What has to be done before anything can be logged: the level has to exist, and if a directory is given
it is made with an empty log file in it.
-/

namespace MarkupCleaner

/-- Why the log cannot be set up. -/
inductive LogFault where
  | level (fault : LevelFault)
  | path (fault : LogPath.Fault)
  | file (fault : FileFault)
deriving DecidableEq, Repr

/-- The wording of the fault. -/
def LogFault.message : LogFault → String
  | level fault => fault.message
  | path fault => fault.message
  | file fault => fault.message

/-- The path of the log file in a directory, after both have been made. -/
def Host.makeLogFile {m : Type → Type} [Monad m] (host : Host m) (directory : String) :
    m (Except LogFault String) := do
  match ← host.makeDirectories directory with
  | .error fault => return .error (.file fault)
  | .ok () =>
    match LogPath.inDirectory directory with
    | .error fault => return .error (.path fault)
    | .ok path => return ((← host.createFile path).mapError .file).map fun _ => path

/-- The output for a level and, if there is one, the directory of the log file. -/
def Host.openLog {m : Type → Type} [Monad m] (host : Host m) (choice : LevelChoice)
    (directory : Option String) : m (Except LogFault LogOutput) := do
  match choice.level, directory with
  | .error fault, _ => return .error (.level fault)
  | .ok level, none => return .ok { level }
  | .ok level, some directory =>
    return (← host.makeLogFile directory).map fun path => { level, file := some path }

end MarkupCleaner
