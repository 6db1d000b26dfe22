import MarkupCleaner.Proofs.Image.Icons

/-!
# The replacement of images as a recursion

What becomes of a node is decided on the node as it was found: an icon becomes an image with everything in
it, an empty box becomes one too, and any other element gets what becomes of its children. These equations
determine the replacement.
-/

namespace MarkupCleaner.Image

/-- Whether a node that is no icon is replaced: a `div` without content whose attributes allow an image. -/
def isEmptyBox (options : ImageOptions) : Node → Bool
  | .element tag attrs children _ => tag = "div" && allowsImage options attrs && !hasContent children
  | .text _ => false
  | .comment _ => false

/-- Whether a node that is in no icon is replaced. -/
def isReplaced (options : ImageOptions) (n : Node) : Bool := detects options n || isEmptyBox options n

/-- What becomes of nodes, child by child and from the original nodes only. -/
structure IsReplacement (options : ImageOptions) (g : Node → Except Number.DigitLimit Node) : Prop where
  text : ∀ value, g (.text value) = .ok (.text value)
  comment : ∀ data, g (.comment data) = .ok (.comment data)
  element : ∀ tag attrs children ns, g (.element tag attrs children ns) =
    if options.icons && isIcon tag attrs children then iconImage attrs ns
    else do
      let below ← children.mapM g
      if tag = "div" && allowsImage options attrs && !hasContent children then
        return boxImage attrs ns (backgroundOf? attrs)
      else return .element tag attrs below ns

theorem replaceBelow_eq_mapM (options : ImageOptions) (ns : List Node) :
    replaceBelow options ns = ns.mapM (replaceNode options) := by
  induction ns with
  | nil => rfl
  | cons n ns ih => rw [replaceBelow, List.mapM_cons, ih]

theorem isReplacement_replaceNode (options : ImageOptions) :
    IsReplacement options (replaceNode options) where
  text _ := rfl
  comment _ := rfl
  element tag attrs children ns := by rw [replaceNode, replaceBelow_eq_mapM]

mutual

theorem IsReplacement.eq_replaceNode {options : ImageOptions} {g : Node → Except Number.DigitLimit Node}
    (hg : IsReplacement options g) : ∀ n : Node, g n = replaceNode options n
  | .element tag attrs children ns => by
    rw [hg.element, hg.mapM_eq_replaceBelow children, replaceNode]
  | .text value => hg.text value
  | .comment data => hg.comment data

/-- Nothing else satisfies the equations of the replacement. -/
theorem IsReplacement.mapM_eq_replaceBelow {options : ImageOptions}
    {g : Node → Except Number.DigitLimit Node} (hg : IsReplacement options g) :
    ∀ ns : List Node, ns.mapM g = replaceBelow options ns
  | [] => rfl
  | n :: ns => by
    rw [List.mapM_cons, hg.eq_replaceNode n, hg.mapM_eq_replaceBelow ns, replaceBelow]

end

/-- The equations of the replacement have one solution. -/
theorem isReplacement_iff {options : ImageOptions} {g : Node → Except Number.DigitLimit Node} :
    IsReplacement options g ↔ g = replaceNode options := by
  constructor
  · intro hg
    exact funext hg.eq_replaceNode
  · rintro rfl
    exact isReplacement_replaceNode options

theorem isReplaced_element (options : ImageOptions) (tag : String) (attrs : Attributes)
    (children : List Node) (ns : Option String) : isReplaced options (.element tag attrs children ns)
      = (options.icons && isIcon tag attrs children
          || tag = "div" && allowsImage options attrs && !hasContent children) :=
  rfl

theorem isReplaced_text (options : ImageOptions) (value : String) :
    isReplaced options (.text value) = false := by
  rw [isReplaced, detects, isIconNode, isEmptyBox, Bool.and_false, Bool.or_false]

theorem isReplaced_comment (options : ImageOptions) (data : String) :
    isReplaced options (.comment data) = false := by
  rw [isReplaced, detects, isIconNode, isEmptyBox, Bool.and_false, Bool.or_false]

end MarkupCleaner.Image
