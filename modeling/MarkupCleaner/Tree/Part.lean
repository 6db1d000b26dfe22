import MarkupCleaner.Tree.Node

/-!
# Parts of a tree

What an operation can be pointed at: a whole fragment or a single node.
-/

namespace MarkupCleaner

/-- A whole fragment or a single node. -/
inductive Part where
  | fragment (ns : Fragment)
  | node (n : Node)
deriving DecidableEq, Repr

namespace Part

/-- The nodes right below. -/
def children : Part → List Node
  | fragment ns => ns
  | node (.element _ _ children _) => children
  | node _ => []

/-- The same part with other nodes right below it; a text and a comment have none. -/
def withChildren (children : List Node) : Part → Part
  | fragment _ => fragment children
  | node (.element tag attrs _ ns) => node (.element tag attrs children ns)
  | node n => node n

/-- The attributes; only an element has any. -/
def attributes : Part → Attributes
  | node (.element _ attrs _ _) => attrs
  | _ => []

/-- Whether there is an element right below. -/
def hasElementBelow (p : Part) : Bool := p.children.any Node.isElement

end Part
end MarkupCleaner
