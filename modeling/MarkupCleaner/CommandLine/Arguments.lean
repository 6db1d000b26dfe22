import MarkupCleaner.Options
import MarkupCleaner.FilePlace

/-!
# Arguments

The options of the command line. A name may be written with hyphens or with underscores between its
words, and a value may follow as an argument of its own or after an equals sign; a value that starts
with a hyphen has to follow an equals sign. Of an option that is given several times the last one
counts. There are no other arguments, except that two hyphens may end the options.
-/

namespace MarkupCleaner

/-- What the arguments ask for. -/
structure Arguments where
  inputFile : Option String := none
  sample : Option String := none
  renameMap : Option String := none
  componentName : Option String := none
  removeClasses : String := ""
  removeRegex : Bool := false
  lead : String := ""
  options : PipelineOptions := {}

namespace Arguments

/-- An option: a switch that is on or off, or a name with a value that may not be acceptable. -/
inductive Setter where
  | switch (set : Bool → Arguments → Arguments)
  | value (set : String → Arguments → Option Arguments)

/-- A text of its own, or the word for no text. -/
def text? (value : String) : Option String := if value = "None" then none else some value

/-- A switch of the cleanup. -/
def cleanupSwitch (set : Bool → CleanupOptions → CleanupOptions) : Setter :=
  .switch fun isOn a =>
    { a with options := { a.options with cleanup := set isOn a.options.cleanup } }

/-- A switch of the image fixes. -/
def imageSwitch (set : Bool → ImageOptions → ImageOptions) : Setter :=
  .switch fun isOn a => { a with options := { a.options with images := set isOn a.options.images } }

/-- Changes the options of component sources. -/
def withReact (set : ReactOptions → ReactOptions) (a : Arguments) : Arguments :=
  { a with options := { a.options with react := set a.options.react } }

/-- A switch of component sources. -/
def reactSwitch (set : Bool → ReactOptions → ReactOptions) : Setter :=
  .switch fun isOn a => withReact (set isOn) a

/-- The targets by the names that are written as arguments. -/
def targets : List (String × Target) := [("HTML", .html), ("REACT", .react)]

/-- The style modes by the names that are written as arguments. -/
def styleModes : List (String × Output.StyleMode) := [("object", .object), ("string", .string)]

/-- Sets the target. -/
def setTarget (value : String) (a : Arguments) : Option Arguments :=
  (targets.lookup value).map fun output => { a with options := { a.options with output } }

/-- Sets the style mode. -/
def setStyleMode (value : String) (a : Arguments) : Option Arguments :=
  (styleModes.lookup value).map fun styleMode => withReact (fun r => { r with styleMode }) a

/-- The options by name. -/
def setters : List (String × Setter) :=
  [("input-file", .value fun v a => some { a with inputFile := (text? v).map FilePlace.normal }),
   ("sample", .value fun v a => some { a with sample := text? v }),
   ("output", .value setTarget),
   ("format", .switch fun b a => { a with options := { a.options with format := b } }),
   ("normalize-whitespace", cleanupSwitch fun b o => { o with normalizeWhitespace := b }),
   ("remove-empty", cleanupSwitch fun b o => { o with removeEmpty := b }),
   ("semantic-tags", cleanupSwitch fun b o => { o with semanticTags := b }),
   ("flatten-wrappers", cleanupSwitch fun b o => { o with flattenWrappers := b }),
   ("remove-duplicate-attrs", cleanupSwitch fun b o => { o with removeDuplicateAttrs := b }),
   ("fix-nesting", cleanupSwitch fun b o => { o with fixNesting := b }),
   ("remove-classes", .value fun v a => some { a with removeClasses := v }),
   ("remove-regex", .switch fun b a => { a with removeRegex := b }),
   ("prefix", .value fun v a => some { a with lead := v }),
   ("rename-map", .value fun v a => some { a with renameMap := (text? v).map FilePlace.normal }),
   ("figma-icons", imageSwitch fun b o => { o with icons := b }),
   ("background-images", imageSwitch fun b o => { o with backgrounds := b }),
   ("role-images", imageSwitch fun b o => { o with roles := b }),
   ("component-name", .value fun v a => some { a with componentName := text? v }),
   ("wrap-component", reactSwitch fun b o => { o with wrapComponent := b }),
   ("use-class-name", reactSwitch fun b o => { o with useClassName := b }),
   ("use-fragments", reactSwitch fun b o => { o with useFragments := b }),
   ("style-mode", .value setStyleMode)]

/-- What an argument starts: an option by its name, and the value after an equals sign if there is
    one. -/
def option? (argument : String) : Option (String × Option String) :=
  match argument.toList with
  | '-' :: '-' :: cs =>
    let (name, value) := Text.cutAt '=' cs
    let name := String.ofList (name.map fun c => if c = '_' then '-' else c)
    some (name, if cs.contains '=' then some (.ofList value) else none)
  | _ => none

/-- The switch of a name, and whether the name turns it on. -/
def switch? (name : String) : Option (Bool × (Bool → Arguments → Arguments)) :=
  match setters.lookup name with
  | some (.switch set) => some (true, set)
  | _ =>
    match Text.after? "no-".toList name.toList with
    | none => none
    | some positive =>
      match setters.lookup (.ofList positive) with
      | some (.switch set) => some (false, set)
      | _ => none

/-- The option of a name that takes a value. -/
def setter? (name : String) : Option (String → Arguments → Option Arguments) :=
  match setters.lookup name with
  | some (.value set) => some set
  | _ => none

/-- What arguments ask for beyond `a`; nothing if one of them is not acceptable. -/
def readFrom (a : Arguments) : List String → Option Arguments
  | [] => some a
  | ["--"] => some a
  | argument :: rest =>
    match option? argument with
    | none => none
    | some (name, value?) =>
      match switch? name, value? with
      | some (isOn, set), none => readFrom (set isOn a) rest
      | some _, some _ => none
      | none, _ =>
        match setter? name, value?, rest with
        | none, _, _ => none
        | some set, some value, rest =>
          match set value a with
          | some a => readFrom a rest
          | none => none
        | some _, none, [] => none
        | some set, none, value :: rest =>
          if value.toList.head? = some '-' then none
          else
            match set value a with
            | some a => readFrom a rest
            | none => none

/-- What arguments ask for. -/
def read? (arguments : List String) : Option Arguments := readFrom {} arguments

/-- The class rules that are asked for; `renames` is the text of the rename map. -/
def classRules (a : Arguments) (renames : String) : ClassRules :=
  .ofText a.removeClasses a.removeRegex a.lead renames

/-- The name of the component: the one that is asked for, or else the given one. -/
def componentNameOr (a : Arguments) (default : String) : String :=
  (a.componentName.filter (· ≠ "")).getD default

/-- The options of the pipeline that are asked for. -/
def pipelineOptions (a : Arguments) (componentName renames : String) : PipelineOptions :=
  { a.options with
    classRules := a.classRules renames
    react := { a.options.react with componentName := a.componentNameOr componentName } }

end Arguments
end MarkupCleaner
