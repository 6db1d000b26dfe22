import MarkupCleaner.Markup.Token
import MarkupCleaner.Tree.Node

/-!
# Building a tree from tokens

A tree under construction: the nodes that are finished, the elements that are still open, and text
that has been read but not yet placed. Every token changes the draft; at the end all open elements
are closed.

Elements that never have content are closed as soon as they open. The draft remembers them, so that
an end tag written for one of them later is passed over instead of closing something else. The slash
of a self-closing tag is not such an end tag: it always closes the element that its tag opens, and
the draft goes on remembering what it did.
-/

namespace MarkupCleaner.Markup

/-- An element whose end has not come yet, its children so far with the last one first. -/
structure OpenElement where
  tag : String
  attrs : Attributes
  children : List Node := []

/-- The element as a node. -/
def OpenElement.node (e : OpenElement) : Node := .element e.tag e.attrs e.children.reverse none

/-- A tree under construction. `opened` lists the open elements with the innermost first, `top` the
    finished top nodes with the last one first, and `closedEmpty` the empty elements whose end tag
    may still come. -/
structure Draft where
  opened : List OpenElement := []
  top : List Node := []
  pending : Option (List Char) := none
  closedEmpty : List String := []
  ignored : List Ignored := []

/-- The elements that never have content. -/
def emptyElements : List String :=
  ["area", "base", "br", "col", "embed", "hr", "img", "input", "keygen", "link", "menuitem", "meta",
   "param", "source", "track", "wbr", "basefont", "bgsound", "command", "frame", "image", "isindex",
   "nextid", "spacer"]

/-- The elements whose blank text is kept as it is. -/
def keepsBlankText (tag : String) : Bool := tag = "pre" || tag = "textarea"

/-- ASCII white space. -/
def isAsciiBlank (c : Char) : Bool :=
  c = ' ' || c = '\n' || c = '\t' || c = '\x0c' || c = '\r'

/-- The shortest form of ASCII white space: a line feed if it has one, otherwise a space. -/
def shortBlank (cs : List Char) : List Char := if cs.contains '\n' then ['\n'] else [' ']

namespace Draft

/-- Whether blank text is kept as it is at this place. -/
def keepsBlanks (d : Draft) : Bool := d.opened.any fun e => keepsBlankText e.tag

/-- Adds a node at the end of the innermost open element. -/
def append (d : Draft) (n : Node) : Draft :=
  match d.opened with
  | [] => { d with top := n :: d.top }
  | e :: outer => { d with opened := { e with children := n :: e.children } :: outer }

/-- Adds text that has been read. -/
def read (d : Draft) (cs : List Char) : Draft :=
  { d with pending := some (d.pending.getD [] ++ cs) }

/-- The form that read text takes at this place. -/
def placed (d : Draft) (cs : List Char) : List Char :=
  if cs.all isAsciiBlank && !d.keepsBlanks then shortBlank cs else cs

/-- Places the text that has been read as a node. Nothing happens if none has been read. -/
def flushAs (d : Draft) (make : String → Node) : Draft :=
  match d.pending with
  | none => d
  | some cs => { d with pending := none }.append (make (.ofList (d.placed cs)))

/-- Places the text that has been read. -/
def flush (d : Draft) : Draft := d.flushAs .text

/-- Closes the innermost open element. -/
def closeInnermost (d : Draft) : Draft :=
  match d.opened with
  | [] => d
  | e :: outer => { d with opened := outer }.append e.node

/-- Closes the innermost open elements, as many as told. -/
def closeMany : Nat → Draft → Draft
  | 0, d => d
  | n + 1, d => closeMany n d.closeInnermost

/-- Closes the innermost open element of a name and all inside it; nothing if none is open. -/
def close (d : Draft) (tag : String) : Draft :=
  let d := d.flush
  match d.opened.findIdx? fun e => e.tag = tag with
  | none => d
  | some inner => closeMany (inner + 1) d

/-- Opens an element. -/
def enter (d : Draft) (tag : String) (attrs : Attributes) : Draft :=
  let d := d.flush
  { d with opened := { tag, attrs } :: d.opened }

/-- The draft after one more token. -/
def add (d : Draft) : Token → Draft
  | .text cs => d.read cs
  | .opening tag attrs =>
    let d := d.enter tag attrs
    if tag ∈ emptyElements then
      let d := d.close tag
      { d with closedEmpty := tag :: d.closedEmpty }
    else d
  -- the slash is no end tag, so it does not count for an element that was closed before
  | .selfClosing tag attrs => (d.enter tag attrs).close tag
  | .closing tag =>
    if tag ∈ d.closedEmpty then { d with closedEmpty := d.closedEmpty.erase tag } else d.close tag
  | .comment cs => (d.flush.read cs).flushAs .comment
  | .characterData cs => (d.flush.read cs).flush
  | .ignored kind =>
    let d := d.flush
    { d with ignored := kind :: d.ignored }

/-- The finished tree: all text placed and all elements closed. -/
def finish (d : Draft) : Draft :=
  let d := d.flush
  closeMany d.opened.length d

end Draft

/-- A parsed document, and what was recognised without leaving a node, both in document order. -/
structure Document where
  fragment : Fragment
  ignored : List Ignored

/-- The document of a token sequence. -/
def Document.ofTokens (ts : List Token) : Document :=
  let d := (ts.foldl Draft.add {}).finish
  ⟨d.top.reverse, d.ignored.reverse⟩

end MarkupCleaner.Markup
