import MarkupCleaner.ClassRules.Rules
import MarkupCleaner.Cleanup.Pass
import MarkupCleaner.Image.Replace
import MarkupCleaner.Output.React

/-!
# Options of the pipeline

What a run of the pipeline is asked to do: which output it writes and how each of its stages works.
-/

namespace MarkupCleaner

/-- The output that is written. -/
inductive Target where
  | html
  | react
deriving DecidableEq, Repr

namespace Target

/-- The name of a target. -/
def name : Target → String
  | html => "html"
  | react => "react"

/-- The targets by name. -/
def byName : List (String × Target) := [html, react].map fun target => (target.name, target)

end Target

/-- What a run of the pipeline is asked to do. -/
structure PipelineOptions where
  output : Target := .html
  cleanup : CleanupOptions := {}
  classRules : ClassRules := {}
  images : ImageOptions := {}
  react : ReactOptions := {}
  format : Bool := false
deriving DecidableEq, Repr

end MarkupCleaner
