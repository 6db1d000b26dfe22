import MarkupCleaner.Assist.Request
import MarkupCleaner.Options

/-!
# Options in words

The settings of the pipeline in one line, for a model that is to follow them, and the goal that
belongs to an output.
-/

namespace MarkupCleaner.Assist

/-- The goal that belongs to an output. -/
def Goal.ofTarget : Target → Goal
  | .html => cleanHtml
  | .react => reactComponent

/-- A text, or the word for nothing. -/
def orNone (text : String) : String := if text = "" then "none" else text

/-- The note after what is a pattern. -/
def regexNote (isRegex : Bool) : String := if isRegex then " (regex)" else ""

/-- A rename in words. -/
def renameText (rule : RenameRule) : String :=
  rule.source ++ " -> " ++ rule.target ++ regexNote rule.isRegex

/-- The classes to be removed, in words. -/
def removalText (rules : ClassRules) : String :=
  orNone (", ".intercalate (rules.remove ++ rules.removeRegex))
    ++ regexNote (!rules.removeRegex.isEmpty)

/-- The renames in words; one without a source or a target is passed over. -/
def renamesText (rules : ClassRules) : String :=
  orNone ("; ".intercalate
    ((rules.rename.filter fun rule => rule.source ≠ "" && rule.target ≠ "").map renameText))

/-- A switch in words. -/
def switchText (isOn : Bool) : String := if isOn then "on" else "off"

/-- The image fixes in words. -/
def imagesText (images : ImageOptions) : String :=
  "figmaIcons=" ++ switchText images.icons ++ ", background=" ++ switchText images.backgrounds
    ++ ", roleImages=" ++ switchText images.roles

/-- The settings of the pipeline in one line. -/
def summary (options : PipelineOptions) : String :=
  " | ".intercalate
    ["Remove classes: " ++ removalText options.classRules,
     "Rename rules: " ++ renamesText options.classRules,
     "Prefix: " ++ orNone (options.classRules.lead.getD ""),
     "Cleanup: "
       ++ orNone (", ".intercalate
         ((Cleanup.enabledPasses options.cleanup).map Cleanup.Pass.optionName)),
     "Image rules: " ++ imagesText options.images]

end MarkupCleaner.Assist
