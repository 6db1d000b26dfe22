import MarkupCleaner.Tree.Node

/-!
# Normal white space

Runs of white space in text shrink to one space and blank text becomes empty, except below elements
whose content is shown as it was written.
-/

namespace MarkupCleaner.Cleanup

/-- The elements below which white space is kept. -/
def keepsWhitespace (tag : String) : Bool := tag = "pre" || tag = "code" || tag = "textarea"

/-- The normal form of a text: empty if it is blank, otherwise with every run of white space
    collapsed. -/
def normalText (value : String) : String :=
  if Text.isBlank (Text.collapsed value) then "" else Text.collapsed value

mutual

/-- Normalises the text of a subtree; `kept` tells whether an element around it keeps its white
    space. -/
def normalizeNode (kept : Bool) : Node → Node
  | .element tag attrs children ns =>
    .element tag attrs (normalizeBelow (kept || keepsWhitespace tag) children) ns
  | .text value => .text (if kept then value else normalText value)
  | .comment data => .comment data

/-- Normalises the text of several subtrees. -/
def normalizeBelow (kept : Bool) : List Node → List Node
  | [] => []
  | n :: ns => normalizeNode kept n :: normalizeBelow kept ns

end

/-- Normalises all text that no element keeps. -/
def normalizeWhitespace (ns : Fragment) : Fragment := normalizeBelow false ns

theorem normalizeBelow_eq_map (kept : Bool) (ns : List Node) :
    normalizeBelow kept ns = ns.map (normalizeNode kept) := by
  induction ns with
  | nil => rfl
  | cons n ns ih => simp [normalizeBelow, ih]

end MarkupCleaner.Cleanup
