import MarkupCleaner.Markup.Parse
import MarkupCleaner.Output.Render
import MarkupCleaner.Tree.Part

/-!
# HTML

Trees as HTML text. The spellings of two attributes that component sources use are written as HTML
names.
-/

namespace MarkupCleaner.Output

/-- The name of an attribute in HTML. -/
def htmlName (name : String) : String :=
  match name with
  | "classname" => "class"
  | "htmlfor" => "for"
  | name => name

/-- An attribute in HTML; one without a name is not written. -/
def htmlAttribute (a : Attribute) : String :=
  if htmlName a.name = "" then "" else " " ++ htmlName a.name ++ "=\"" ++ escapeValue a.value ++ "\""

/-- The dialect of HTML. -/
def html : Dialect where
  writeAttribute := htmlAttribute
  writeComment data := "<!--" ++ data ++ "-->"

/-- A tree as HTML. -/
def toHtml (ns : Fragment) : String := renderAll html ns

/-- A part of a tree as HTML. -/
def partToHtml : Part → String
  | .fragment ns => toHtml ns
  | .node n => render html n

/-- Whether the HTML of a part is parsed as that part again; only a whole fragment can be. -/
def readsBack (p : Part) : Except ParseError Bool := do
  return .fragment (← parseFragment (partToHtml p)) = p

end MarkupCleaner.Output
