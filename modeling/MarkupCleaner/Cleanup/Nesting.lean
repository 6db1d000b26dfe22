import MarkupCleaner.Tree.Node

/-!
# Nesting under a paragraph

A block element cannot stand right below a paragraph; there it becomes a `span`. A paragraph counts
as a block, so an inner one is changed first and then no longer constrains its own children.
-/

namespace MarkupCleaner.Cleanup

/-- The block elements that a paragraph must not hold. -/
def paragraphBlocks : List String :=
  ["div", "p", "section", "article", "header", "footer", "nav", "main", "ul", "ol", "li", "table",
   "thead", "tbody", "tr"]

/-- The tag of an element; `inParagraph` tells whether its parent is a paragraph. -/
def nestedTag (inParagraph : Bool) (tag : String) : String :=
  if inParagraph && paragraphBlocks.contains tag then "span" else tag

mutual

/-- Mends the nesting of a subtree. -/
def nestNode (inParagraph : Bool) : Node → Node
  | .element tag attrs children ns =>
    .element (nestedTag inParagraph tag) attrs
      (nestBelow (nestedTag inParagraph tag = "p") children) ns
  | .text value => .text value
  | .comment data => .comment data

/-- Mends the nesting of several subtrees with one parent. -/
def nestBelow (inParagraph : Bool) : List Node → List Node
  | [] => []
  | n :: ns => nestNode inParagraph n :: nestBelow inParagraph ns

end

/-- Turns every block element right below a paragraph into a `span`. -/
def fixNesting (ns : Fragment) : Fragment := nestBelow false ns

theorem nestBelow_eq_map (inParagraph : Bool) (ns : List Node) :
    nestBelow inParagraph ns = ns.map (nestNode inParagraph) := by
  induction ns with
  | nil => rfl
  | cons n ns ih => simp [nestBelow, ih]

end MarkupCleaner.Cleanup
