import MarkupCleaner.FilePlace
import MarkupCleaner.Log

/-!
# Showing and filing the log

Messages of at least a level are shown, each with its first line only, and if there is a log file they
are written to it in full.
-/

namespace MarkupCleaner

/-- A level as it is asked for: by its name or by its severity. -/
inductive LevelChoice where
  | named (name : String)
  | numbered (severity : Int)
deriving DecidableEq, Repr

/-- A choice that no level meets: a name that none has, or a negative severity. -/
inductive LevelFault where
  | unknown (name : String)
  | negative (severity : Int)
deriving DecidableEq, Repr

/-- The wording of the fault. -/
def LevelFault.message : LevelFault → String
  | unknown name => "Level '" ++ name ++ "' does not exist"
  | negative severity =>
    "Invalid level value, it should be a positive integer, not: " ++ toString severity

/-- The level that is asked for, or the fault that there is none. -/
def LevelChoice.level : LevelChoice → Except LevelFault Level
  | named name =>
    match Level.ofName? name with
    | some level => .ok level
    | none => .error (.unknown name)
  | numbered severity =>
    if severity < 0 then .error (.negative severity) else .ok (.numbered severity.toNat)

/-- The level of a message from a source that knows levels by their severity only: a named one if the
    source has a name for it. Messages without a positive severity are not logged. -/
def Level.ofSeverity? (severity : Int) : Option Level :=
  let common := [debug, info, warning, error, critical]
  if severity ≤ 0 then none
  else
    some ((common.find? fun level => level.severity = severity.toNat).getD
      (.numbered severity.toNat))

/-- The severities by the names that such a source may use for them. -/
def Level.severityByName : List (String × Nat) :=
  [("DEBUG", 10), ("INFO", 20), ("WARNING", 30), ("WARN", 30), ("ERROR", 40), ("CRITICAL", 50),
   ("FATAL", 50)]

/-- What is done with the log. -/
structure LogOutput where
  level : Level
  /-- The path of the log file. -/
  file : Option String := none
deriving DecidableEq, Repr

namespace LogOutput

/-- The first line of a text. -/
def firstLine (text : String) : String := .ofList (text.toList.takeWhile (· ≠ '\n'))

/-- What is shown of a log. -/
def shown (out : LogOutput) (log : Log) : Log :=
  (log.atLeast out.level).map fun e => { e with message := firstLine e.message }

/-- The log files with what is written to them. -/
def files (out : LogOutput) (log : Log) : List (String × Log) :=
  out.file.toList.map fun path => (path, log.atLeast out.level)

/-- Those of some log files that are below the working directory. -/
def filesBelow (files : List (String × Log)) : List (String × Log) :=
  files.filter fun file => FilePlace.isBelow file.1

end LogOutput
end MarkupCleaner
