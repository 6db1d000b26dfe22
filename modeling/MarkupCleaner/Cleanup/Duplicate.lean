import MarkupCleaner.Tree.Node

/-!
# Duplicate attributes

Of the attributes of an element whose names agree but for case, the first one is kept.
-/

namespace MarkupCleaner.Cleanup

/-- The attributes whose lower-case name is new after the names in `seen`. -/
def distinctAfter (seen : List String) : Attributes → Attributes
  | [] => []
  | a :: rest =>
    let name := Attributes.lowerName a.name
    if name ∈ seen then distinctAfter seen rest else a :: distinctAfter (name :: seen) rest

/-- The first attribute of every name. -/
def distinctAttributes (attrs : Attributes) : Attributes := distinctAfter [] attrs

mutual

/-- Keeps the first attribute of every name in a subtree. -/
def distinctNode : Node → Node
  | .element tag attrs children ns =>
    .element tag (distinctAttributes attrs) (distinctBelow children) ns
  | .text value => .text value
  | .comment data => .comment data

/-- Keeps the first attribute of every name in several subtrees. -/
def distinctBelow : List Node → List Node
  | [] => []
  | n :: ns => distinctNode n :: distinctBelow ns

end

/-- Keeps the first attribute of every name. -/
def removeDuplicateAttributes (ns : Fragment) : Fragment := distinctBelow ns

theorem distinctBelow_eq_map (ns : List Node) : distinctBelow ns = ns.map distinctNode := by
  induction ns with
  | nil => rfl
  | cons n ns ih => simp [distinctBelow, ih]

end MarkupCleaner.Cleanup
