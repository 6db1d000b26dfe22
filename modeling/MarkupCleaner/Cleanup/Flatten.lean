import MarkupCleaner.Cleanup.Empty

/-!
# Flattening wrappers

A wrapper whose attributes say nothing and whose only child is an element gives way to that child.
-/

namespace MarkupCleaner.Cleanup

/-- Whether some attribute has a value that is not blank. -/
def saysSomething (attrs : Attributes) : Bool := attrs.any fun a => !Text.isBlank a.value

/-- The child that an element of this tag, with these attributes and children, gives way to. -/
def onlyChild? (tag : String) (attrs : Attributes) (children : List Node) : Option Node :=
  match children with
  | [.element tag' attrs' children' ns'] =>
    if isWrapper tag && !saysSomething attrs then some (.element tag' attrs' children' ns')
    else none
  | _ => none

mutual

/-- Flattens a subtree from the inside out. -/
def flattenNode : Node → Node
  | .element tag attrs children ns =>
    let flat := flattenBelow children
    (onlyChild? tag attrs flat).getD (.element tag attrs flat ns)
  | .text value => .text value
  | .comment data => .comment data

/-- Flattens several subtrees. -/
def flattenBelow : List Node → List Node
  | [] => []
  | n :: ns => flattenNode n :: flattenBelow ns

end

/-- Replaces every wrapper around a single element by that element. -/
def flattenWrappers (ns : Fragment) : Fragment := flattenBelow ns

theorem flattenBelow_eq_map (ns : List Node) : flattenBelow ns = ns.map flattenNode := by
  induction ns with
  | nil => rfl
  | cons n ns ih => simp [flattenBelow, ih]

end MarkupCleaner.Cleanup
