import MarkupCleaner.Live.Basic

/-!
# Links to parents

A document is sound if every node below it remembers the node that holds it and no identity occurs
twice.
-/

namespace MarkupCleaner

namespace LiveNode

mutual

/-- The paths of the nodes of a subtree that do not remember their holder; `path` leads to the
    subtree. -/
def misplaced (holder : NodeId) (path : Path) : LiveNode → List Path
  | element link _ _ children _ =>
    (if link.parent = some holder then [] else [path]) ++ misplacedFrom link.id path 0 children
  | text link _ => if link.parent = some holder then [] else [path]
  | comment link _ => if link.parent = some holder then [] else [path]

/-- The paths of the nodes below a holder, from the slot `index` on, that do not remember their
    holder. -/
def misplacedFrom (holder : NodeId) (path : Path) (index : Nat) : List LiveNode → List Path
  | [] => []
  | n :: ns => misplaced holder (path ++ [index]) n ++ misplacedFrom holder path (index + 1) ns

end

mutual

/-- The identities of a subtree in document order. -/
def ids : LiveNode → List NodeId
  | element link _ _ children _ => link.id :: idsAll children
  | text link _ => [link.id]
  | comment link _ => [link.id]

/-- The identities of several subtrees. -/
def idsAll : List LiveNode → List NodeId
  | [] => []
  | n :: ns => ids n ++ idsAll ns

end

end LiveNode

namespace LivePart

/-- The paths, from the part on, of the nodes below it that do not remember their holder. -/
def misplaced (p : LivePart) : List Path := LiveNode.misplacedFrom p.id [] 0 p.children

end LivePart

namespace LiveDocument

/-- The identities of a document: its own and those of all nodes. -/
def ids (d : LiveDocument) : List NodeId := d.id :: LiveNode.idsAll d.children

/-- Every node remembers the node that holds it, no identity occurs twice, and those that are free are
    not in use. -/
structure Sound (d : LiveDocument) : Prop where
  linked : (LivePart.document d).misplaced = []
  distinct : d.ids.Nodup
  free : ∀ id ∈ d.ids, id < d.next

end LiveDocument
end MarkupCleaner
