import MarkupCleaner.Output.Render
import MarkupCleaner.Output.Style
import MarkupCleaner.Tree.Part

/-!
# React components

Trees as the source of a React component. Attributes take their property names, styles become object
literals and plain numbers become expressions.
-/

namespace MarkupCleaner

/-- The name of a component that is given none. -/
def defaultComponentName : String := "FigmaComponent"

/-- How a component is written. -/
structure ReactOptions where
  componentName : String := defaultComponentName
  wrapComponent : Bool := true
  useClassName : Bool := true
  useFragments : Bool := true
  styleMode : Output.StyleMode := .object
deriving DecidableEq, Repr

namespace Output

/-- The property name of an attribute. -/
def propertyName (options : ReactOptions) (name : String) : String :=
  if options.useClassName && (name = "class" || name = "classname") then "className"
  else if !options.useClassName && name = "classname" then "class"
  else if name = "for" || name = "htmlfor" then "htmlFor"
  else name

/-- Whether a text is a plain decimal number in ASCII digits, perhaps with a minus sign. -/
def isPlainNumber (value : List Char) : Bool :=
  let unsigned :=
    match value with
    | '-' :: rest => rest
    | rest => rest
  let isDigit := fun (c : Char) => '0' ≤ c && c ≤ '9'
  match unsigned.takeWhile isDigit, unsigned.dropWhile isDigit with
  | [], _ => false
  | _, [] => true
  | _, '.' :: fraction => !fraction.isEmpty && fraction.all isDigit
  | _, _ => false

/-- An expression in braces. -/
def braced (expression : String) : String := "\x7b" ++ expression ++ "\x7d"

/-- An attribute as a property; one without a name is not written. -/
def reactAttribute (options : ReactOptions) (a : Attribute) : String :=
  let name := propertyName options a.name
  if name = "" then ""
  else if name = "style" then
    " style=" ++ braced (.ofList (styleObject options.styleMode a.value.toList))
  else if (name = "width" || name = "height") && isPlainNumber a.value.toList then
    " " ++ name ++ "=" ++ braced a.value
  else " " ++ name ++ "=\"" ++ escapeValue a.value ++ "\""

/-- The dialect of component sources. -/
def react (options : ReactOptions) : Dialect where
  writeAttribute := reactAttribute options
  writeComment data := braced ("/*" ++ data ++ "*/")

/-- The markup of a part, with an element around it if it has several top nodes. -/
def reactBody (options : ReactOptions) (part : Part) : String :=
  match part with
  | .node n => Text.stripped (render (react options) n)
  | .fragment ns =>
    let body := Text.stripped (renderAll (react options) ns)
    if ns.length ≤ 1 then body
    else if options.useFragments then "<>" ++ body ++ "</>"
    else "<div>" ++ body ++ "</div>"

/-- The name of the component: the one given without the blanks around it, if it is not blank. -/
def componentName (options : ReactOptions) : String :=
  let name := Text.stripped options.componentName
  if name = "" then defaultComponentName else name

/-- A part as the source of a component, or as its markup alone. -/
def toReact (options : ReactOptions) (part : Part) : String :=
  let body := reactBody options part
  if options.wrapComponent then
    "export default function " ++ componentName options ++ "() " ++ "\x7b\n  return (" ++ body
      ++ ");\n\x7d"
  else body

end Output
end MarkupCleaner
