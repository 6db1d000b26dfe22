import MarkupCleaner.ClassRules.Engine
import MarkupCleaner.Formatter
import MarkupCleaner.Markup.Parse
import MarkupCleaner.Options
import MarkupCleaner.Output.Html

/-!
# The pipeline

The stages in their fixed order: the text is parsed, the tree is cleaned up, images are fixed, class
rules are applied and the tree is written. A stage that fails ends the run with its name and the
cause. The formatter comes last; it cannot fail the run.
-/

namespace MarkupCleaner

/-- A stage of the pipeline. -/
inductive Stage where
  | parse
  | cleanup
  | images
  | classRules
  | write
deriving DecidableEq, Repr

namespace Stage

/-- The name of a stage in messages. -/
def name : Stage → String
  | parse => "parse"
  | cleanup => "cleanup"
  | images => "image fixes"
  | classRules => "class rules"
  | write => "serialize"

end Stage

/-- Why a stage fails. -/
inductive StageFault where
  /-- The text is refused. -/
  | unparsable (error : ParseError)
  /-- A size has too many digits. -/
  | tooManyDigits (limit : Number.DigitLimit)
  /-- A class pattern breaks a limit of the pattern language. -/
  | refusedPattern (refusal : ClassRules.Refusal)
  /-- A class pattern matches with a broken group. -/
  | brokenGroup (fault : Pattern.BrokenGroup)
deriving DecidableEq, Repr

namespace StageFault

/-- The wording of a fault. -/
def message : StageFault → String
  | unparsable error => error.message
  | tooManyDigits limit => limit.message
  | refusedPattern refusal => refusal.message
  | brokenGroup fault => fault.message

end StageFault

/-- A stage that failed, and why. -/
structure PipelineError where
  stage : Stage
  fault : StageFault
deriving DecidableEq, Repr

namespace PipelineError

/-- What is logged about a failure. -/
def summary (e : PipelineError) : String := "Pipeline failed during " ++ e.stage.name

/-- The wording of a failure. -/
def message (e : PipelineError) : String := e.summary ++ ": " ++ e.fault.message

end PipelineError

namespace Pipeline

/-- A computation that logs and can end with a failed stage. -/
abbrev Staged := ExceptT PipelineError (StateM Log)

/-- Logs messages. -/
def record (log : Log) : Staged Unit := modify fun before => before ++ log

/-- The outcome of a stage. A failure is logged. -/
def stage {α : Type} (s : Stage) (outcome : Except StageFault α) : Staged α :=
  match outcome with
  | .ok a => return a
  | .error fault => do
    let e : PipelineError := ⟨s, fault⟩
    record [⟨.error, e.summary⟩]
    throw e

/-- The message about something that was recognised in the text and left out of the tree. -/
def ignoredEntry (kind : Markup.Ignored) : Entry :=
  ⟨.debug, "Dropping " ++ kind.name ++ " node from fragment"⟩

/-- Parses a text. -/
def parseText (text : String) : Staged Fragment := do
  let document ← stage .parse ((parse text).mapError .unparsable)
  record (document.ignored.map ignoredEntry)
  return document.fragment

/-- Cleans a tree up. -/
def cleanupTree (options : CleanupOptions) (tree : Fragment) : Staged Fragment := do
  record ((Cleanup.enabledPasses options).map Cleanup.Pass.entry)
  stage .cleanup (.ok (MarkupCleaner.cleanup options tree))

/-- Fixes the images of a tree. -/
def fixImages (options : ImageOptions) (tree : Fragment) : Staged Fragment :=
  stage .images ((replaceImages options tree).mapError .tooManyDigits)

/-- Applies class rules to a tree. -/
def applyRules (rules : ClassRules) (tree : Fragment) : Staged Fragment := do
  let (engine, log) := ClassRules.engine rules
  record log
  let engine ← stage .classRules (engine.mapError .refusedPattern)
  stage .classRules ((engine.applyBelow tree).mapError .brokenGroup)

/-- A tree in the output that is asked for. -/
def render (options : PipelineOptions) (tree : Fragment) : String :=
  match options.output with
  | .html => Output.toHtml tree
  | .react => Output.toReact options.react (.fragment tree)

/-- The message about the finished output. -/
def outputEntry (target : Target) (output : String) : Entry :=
  ⟨.debug, "Pipeline produced " ++ toString output.length ++ " chars of " ++ target.name
    ++ " output"⟩

/-- All stages, from the text to the output. -/
def stages (options : PipelineOptions) (text : String) : Staged String := do
  let tree ← parseText text
  let tree ← cleanupTree options.cleanup tree
  let tree ← fixImages options.images tree
  let tree ← applyRules options.classRules tree
  let output ← stage .write (.ok (render options tree))
  record [outputEntry options.output output]
  return output

/-- The result of a run: the output or the failure, what was logged, and the command line of the
    formatter if it was started. -/
structure Result where
  output : Except PipelineError String
  log : Log
  formatted : Option (List String) := none

/-- The output of all stages before any formatting, and what was logged. -/
def unformatted (options : PipelineOptions) (text : String) : Except PipelineError String × Log :=
  (stages options text).run []

/-- What is asked of the formatter after the stages, if it is to run at all: its command line. -/
def formatterCall? (f : Formatter) (options : PipelineOptions)
    (output : Except PipelineError String) : Option (List String) :=
  match output with
  | .ok _ => if options.format then some (f.commandLine options.output.name) else none
  | .error _ => none

/-- The result of a run whose stages have come to an output and a log; `outcome` is what becomes of the
    formatter if it is started. -/
def conclude (f : Formatter) (outcome : Formatter.Outcome) (options : PipelineOptions)
    (output : Except PipelineError String) (log : Log) : Result :=
  let formatted := formatterCall? f options output
  match output, formatted with
  | .ok code, some _ =>
    let (code, warnings) := f.settle options.output.name code outcome
    { output := .ok code, log := log ++ warnings, formatted }
  | output, formatted => { output, log, formatted }

/-- Runs the pipeline; `outcome` is what becomes of the formatter if it is started. -/
def run (f : Formatter) (outcome : Formatter.Outcome) (options : PipelineOptions) (text : String) :
    Result :=
  let (output, log) := unformatted options text
  conclude f outcome options output log

end Pipeline
end MarkupCleaner
