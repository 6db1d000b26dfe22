import MarkupCleaner.Tree.Node

/-!
# Writing trees

The walk that writes a tree as text. How attributes and comments look is left to the dialect; the
rest is the same everywhere: text is escaped, an element is written with its tags, and a void element
as a single closed tag without its children.
-/

namespace MarkupCleaner.Output

/-- A character of a text: ampersands and angle brackets are escaped. -/
def escapeTextChar (c : Char) : List Char :=
  if c = '&' then "&amp;".toList
  else if c = '<' then "&lt;".toList
  else if c = '>' then "&gt;".toList
  else [c]

/-- A character of an attribute value: double quotes are escaped, too. -/
def escapeValueChar (c : Char) : List Char :=
  if c = '"' then "&quot;".toList else escapeTextChar c

/-- A text with its ampersands and angle brackets escaped. -/
def escapeText (value : String) : String := .ofList (value.toList.flatMap escapeTextChar)

/-- An attribute value with its ampersands, angle brackets and double quotes escaped. -/
def escapeValue (value : String) : String := .ofList (value.toList.flatMap escapeValueChar)

/-- The elements that are written without content. -/
def voidElements : List String :=
  ["area", "base", "br", "col", "embed", "hr", "img", "input", "link", "meta", "param", "source",
   "track", "wbr"]

/-- A way to write trees: how an attribute is written, with the space before it or not at all, and
    how a comment is. -/
structure Dialect where
  writeAttribute : Attribute → String
  writeComment : String → String

mutual

/-- A node in the given dialect. -/
def render (dialect : Dialect) : Node → String
  | .element tag attrs children _ =>
    let start := "<" ++ tag ++ String.join (attrs.map dialect.writeAttribute)
    if voidElements.contains tag then start ++ " />"
    else start ++ ">" ++ renderAll dialect children ++ "</" ++ tag ++ ">"
  | .text value => escapeText value
  | .comment data => dialect.writeComment data

/-- Several nodes in the given dialect, one after the other. -/
def renderAll (dialect : Dialect) : List Node → String
  | [] => ""
  | n :: ns => render dialect n ++ renderAll dialect ns

end

end MarkupCleaner.Output
