import MarkupCleaner.Data.Checked
import MarkupCleaner.Data.Json
import MarkupCleaner.Formatter
import MarkupCleaner.Output.React
import MarkupCleaner.Settings.EnvFile
import MarkupCleaner.FilePlace

/-!
# Settings

What is set for all runs: the formatter, the log and the name of components. Settings come from
variables of the environment, then from a file of variables, then from their defaults. Names of
variables may be written in any case. A variable that has lost its value, or whose data is null, gives
nothing.
-/

namespace MarkupCleaner

/-- What is set for all runs. -/
structure Settings where
  formatter : Formatter := {}
  logLevel : String := "INFO"
  logDirectory : Option String := none
  componentName : String := defaultComponentName
deriving DecidableEq, Repr

namespace Settings

/-- Where variables come from. -/
inductive Source where
  | environment
  | file
deriving DecidableEq, Repr

/-- The name of a source in messages. -/
def Source.name : Source → String
  | environment => "EnvSettingsSource"
  | file => "DotEnvSettingsSource"

/-- A variable whose value cannot be read as data at all. -/
structure UnreadableVariable where
  field : String
  source : Source
deriving DecidableEq, Repr

/-- The wording of the fault. -/
def UnreadableVariable.message (e : UnreadableVariable) : String :=
  "error parsing value for field \"" ++ e.field ++ "\" from source \"" ++ e.source.name ++ "\""

/-- How the names of all variables start. -/
def lead : String := "figclean_"

/-- The settings by the names of their variables. -/
def fieldNames : List String :=
  ["prettier_command", "formatter_timeout_seconds", "log_level", "log_dir",
   "default_component_name"]

/-- The text of a setting among variables: that of the last one of its name, if it has a value. -/
def textOf? (given : EnvFile.Variables) (field : String) : Option String :=
  (given.reverse.find? fun v => Unicode.lower v.1.toList = (lead ++ field).toList).bind Prod.snd

/-- The value of a setting: the text itself, except that the command of the formatter is written as
    data. -/
def valueOf (source : Source) (field text : String) : Except UnreadableVariable Value :=
  if field = "prettier_command" then
    match Json.read? text.toList with
    | some v => .ok v
    | none => .error ⟨field, source⟩
  else .ok (.string text)

/-- The values of the settings that variables give. -/
def valuesOf (source : Source) (given : EnvFile.Variables) :
    List String → Except UnreadableVariable (List (String × Value))
  | [] => .ok []
  | field :: rest => do
    let value ←
      match textOf? given field with
      | some text => valueOf source field text
      | none => .ok .null
    let first :=
      match value with
      | .null => []
      | v => [(field, v)]
    return first ++ (← valuesOf source given rest)

/-- The place that a value names. -/
def checkPlace? (v : Value) : Checked (Option String) :=
  (fun place => place.map FilePlace.normal) <$> v.checkText?

/-- Settings as they come from outside. -/
def check (fields : List (String × Value)) : Checked Settings :=
  let formatter : Checked Formatter :=
    Formatter.mk
      <$> Value.optional fields "prettier_command" (Value.checkList Value.checkString)
        ({} : Formatter).command
      <*> Value.optional fields "formatter_timeout_seconds" Value.checkNumber
        ({} : Formatter).timeout
  Settings.mk
    <$> formatter
    <*> Value.optional fields "log_level" Value.checkString "INFO"
    <*> Value.optional fields "log_dir" checkPlace? none
    <*> Value.optional fields "default_component_name" Value.checkString defaultComponentName

/-- The settings of an environment and of the text of a file of variables. Where both give a setting
    the environment wins. -/
def load (environment : List (String × String)) (file : Option String) :
    Except UnreadableVariable (Checked Settings) := do
  let own ← valuesOf .environment (environment.map fun v => (v.1, some v.2)) fieldNames
  let filed ← valuesOf .file ((file.map (EnvFile.read environment)).getD []) fieldNames
  return check (filed ++ own)

end Settings
end MarkupCleaner
