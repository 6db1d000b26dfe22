import MarkupCleaner.CommandLine.Arguments
import MarkupCleaner.CommandLine.LogSetup
import MarkupCleaner.Pipeline
import MarkupCleaner.Sample
import MarkupCleaner.Settings.Basic

/-!
# A run of the command line

The arguments are read, settings are loaded, the log is set up, the input is read, and the pipeline
runs on it. What goes wrong with the arguments, the settings or the log ends the run before there is
anything to report, and so does a text that cannot be a path; what else goes wrong later is logged.
-/

namespace MarkupCleaner.CommandLine

/-- The name of the file of variables. -/
def variablesFile : String := ".env"

/-- What a run reports: its status, its output, the log as it is shown, the log files, and the command
    line of the formatter if it was started. -/
structure Report where
  status : Nat
  output : String
  shown : Log
  files : List (String × Log)
  formatted : Option (List String) := none

/-- How a run ends. -/
inductive Ending where
  /-- The arguments are not acceptable. -/
  | usage
  /-- A variable cannot be read. -/
  | unreadableVariable (fault : Settings.UnreadableVariable)
  /-- The settings are not valid. -/
  | invalidSettings (issues : List Issue)
  /-- The log cannot be set up. -/
  | unusableLog (fault : LogFault)
  /-- A text that is given as a path is none. -/
  | unusablePath (fault : FileFault)
  | reported (report : Report)

/-- Why the input cannot be read. -/
inductive InputFault where
  | unknownSample (id : String)
  | unreadable (fault : FileFault)

/-- What is logged about it. -/
def InputFault.entry (fault : InputFault) : Entry :=
  let reason :=
    match fault with
    | unknownSample id => Text.quoted (Sample.unknownMessage id)
    | unreadable fault => fault.message
  ⟨.error, "Could not read input: " ++ reason⟩

/-- Output ends with a line feed. -/
def finishLine (output : String) : String :=
  if output.toList.getLast? = some '\n' then output else output ++ "\n"

section

variable {m : Type → Type} [Monad m]

/-- The text of the file of variables, if there is one. -/
def variablesText (host : Host m) : m (Option String) := do
  return (← host.readText variablesFile).toOption

/-- The markup: that of the sample, else that of the file, else what is sent to the run. -/
def readMarkup (host : Host m) (a : Arguments) : m (Except InputFault String) := do
  match a.sample.filter (· ≠ ""), a.inputFile with
  | some id, _ =>
    match Sample.named? id with
    | some sample => return .ok sample.html
    | none => return .error (.unknownSample id)
  | none, some path => return (← host.readText path).mapError .unreadable
  | none, none => return (← host.readInput).mapError .unreadable

/-- The text of the rename map, which may be missing. -/
def readRenames (host : Host m) (a : Arguments) : m (Except InputFault String) := do
  match a.renameMap with
  | some path => return (← host.readText path).mapError .unreadable
  | none => return .ok ""

/-- The markup, and then the rename map. -/
def readTexts (host : Host m) (a : Arguments) : m (Except InputFault (String × String)) := do
  match ← readMarkup host a with
  | .error fault => return .error fault
  | .ok markup => return (← readRenames host a).map fun renames => (markup, renames)

/-- Runs the pipeline; the formatter is started if it is asked for and there is something to
    format. -/
def runPipeline (host : Host m) (f : Formatter) (options : PipelineOptions) (markup : String) :
    m Pipeline.Result := do
  let (output, log) := Pipeline.unformatted options markup
  let outcome ←
    match Pipeline.formatterCall? f options output with
    | none => pure .missing
    | some command => host.runFormatter command (output.toOption.getD "") f.timeout
  return Pipeline.conclude f outcome options output log

/-- The report of a run that has nothing to run on. -/
def inputReport (out : LogOutput) (fault : InputFault) : Report :=
  { status := 1, output := "", shown := out.shown [fault.entry], files := out.files [fault.entry] }

/-- The report of a run of the pipeline. -/
def pipelineReport (out : LogOutput) (result : Pipeline.Result) : Report :=
  let shown := out.shown result.log
  let files := out.files result.log
  match result.output with
  | .ok output =>
    { status := 0, output := finishLine output, shown, files, formatted := result.formatted }
  | .error _ => { status := 1, output := "", shown, files, formatted := result.formatted }

/-- The ending of a run whose settings are known and whose log has been set up. -/
def runLogged (host : Host m) (settings : Settings) (out : LogOutput) (a : Arguments) : m Ending := do
  match ← readTexts host a with
  | .error (.unreadable .nullByte) => return .unusablePath .nullByte
  | .error fault => return .reported (inputReport out fault)
  | .ok (markup, renames) =>
    let options := a.pipelineOptions settings.componentName renames
    return .reported (pipelineReport out (← runPipeline host settings.formatter options markup))

/-- A run with the given arguments. -/
def run (host : Host m) (arguments : List String) : m Ending := do
  match Arguments.read? arguments with
  | none => return .usage
  | some a =>
    match Settings.load (← host.environment) (← variablesText host) with
    | .error fault => return .unreadableVariable fault
    | .ok (.invalid issues) => return .invalidSettings issues
    | .ok (.valid settings) =>
      match ← host.openLog (.named settings.logLevel) settings.logDirectory with
      | .error fault => return .unusableLog fault
      | .ok out => runLogged host settings out a

end

end MarkupCleaner.CommandLine
