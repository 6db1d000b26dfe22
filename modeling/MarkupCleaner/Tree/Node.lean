import MarkupCleaner.Tree.Attribute

/-!
# Trees

A parsed document is a fragment, an ordered list of nodes. A node is an element with attributes and
children, a piece of text, or a comment. A namespace is carried along untouched.
-/

namespace MarkupCleaner

/-- A node of a document. -/
inductive Node where
  | element (tag : String) (attrs : Attributes) (children : List Node) (ns : Option String)
  | text (value : String)
  | comment (data : String)
deriving Inhabited, Repr

/-- The top nodes of a document in order. -/
abbrev Fragment := List Node

namespace Node

/-- Whether the node is an element. -/
def isElement : Node → Bool
  | .element .. => true
  | _ => false

/-- Whether the node is a text that holds more than white space. -/
def isWritten : Node → Bool
  | .text value => !Text.isBlank value
  | _ => false

mutual

/-- The number of nodes of a subtree. -/
def size : Node → Nat
  | .element _ _ children _ => sizeAll children + 1
  | .text _ => 1
  | .comment _ => 1

/-- The number of nodes of several subtrees. -/
def sizeAll : List Node → Nat
  | [] => 0
  | n :: ns => n.size + sizeAll ns

end

mutual

/-- Whether two nodes are the same tree. -/
def same : Node → Node → Bool
  | .element t a c n, .element t' a' c' n' => t = t' && a = a' && sameAll c c' && n = n'
  | .text v, .text v' => v = v'
  | .comment d, .comment d' => d = d'
  | _, _ => false

/-- Whether two lists of nodes are the same trees in the same order. -/
def sameAll : List Node → List Node → Bool
  | [], [] => true
  | n :: ns, m :: ms => n.same m && sameAll ns ms
  | _, _ => false

end

mutual

theorem same_iff : ∀ n m : Node, n.same m = true ↔ n = m
  | .element t a c n, .element t' a' c' n' => by
    simp [same, sameAll_iff c c', and_assoc]
  | .text v, .text v' => by simp [same]
  | .comment d, .comment d' => by simp [same]
  | .element .., .text _ => by simp [same]
  | .element .., .comment _ => by simp [same]
  | .text _, .element .. => by simp [same]
  | .text _, .comment _ => by simp [same]
  | .comment _, .element .. => by simp [same]
  | .comment _, .text _ => by simp [same]

theorem sameAll_iff : ∀ ns ms : List Node, sameAll ns ms = true ↔ ns = ms
  | [], [] => by simp [sameAll]
  | n :: ns, m :: ms => by simp [sameAll, same_iff n m, sameAll_iff ns ms]
  | [], _ :: _ => by simp [sameAll]
  | _ :: _, [] => by simp [sameAll]

end

instance : DecidableEq Node := fun n m => decidable_of_iff _ (same_iff n m)

end Node
end MarkupCleaner
