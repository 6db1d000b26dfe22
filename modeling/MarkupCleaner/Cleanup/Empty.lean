import MarkupCleaner.Tree.Node

/-!
# Removing what is empty

Blank texts go, and so do wrapper elements that hold neither an element nor a text once their own
content has been treated. Comments stay, but a wrapper that holds comments only is empty.
-/

namespace MarkupCleaner.Cleanup

/-- The elements without a meaning of their own. -/
def isWrapper (tag : String) : Bool := tag = "div" || tag = "span"

/-- What counts as content of an element: elements, and text that is not blank. -/
def isContent (n : Node) : Bool := n.isElement || n.isWritten

mutual

/-- A subtree without what is empty, if anything is left of it. -/
def pruneNode : Node → Option Node
  | .element tag attrs children ns =>
    let kept := prune children
    if isWrapper tag && !kept.any isContent then none else some (.element tag attrs kept ns)
  | .text value => if Text.isBlank value then none else some (.text value)
  | .comment data => some (.comment data)

/-- Several subtrees without what is empty. -/
def prune : List Node → List Node
  | [] => []
  | n :: ns => (pruneNode n).toList ++ prune ns

end

/-- Removes blank texts and empty wrappers, from the inside out. -/
def removeEmpty (ns : Fragment) : Fragment := prune ns

theorem prune_eq_filterMap (ns : List Node) : prune ns = ns.filterMap pruneNode := by
  induction ns with
  | nil => rfl
  | cons n ns ih =>
    cases h : pruneNode n <;> simp [prune, h, ih]

end MarkupCleaner.Cleanup
