import MarkupCleaner.Tree.Part

/-!
# Live documents

A document whose nodes have identities and remember which node holds them. It is changed in place: a
change keeps the identities of the nodes it does not touch, and it has to keep the links to the
parents in order itself. Forgetting identities and links leaves the plain tree.
-/

namespace MarkupCleaner

/-- The identity of a node or of a document. -/
abbrev NodeId := Nat

/-- The identity of a node and the identity of the node that it takes for its parent. -/
structure Link where
  id : NodeId
  parent : Option NodeId
deriving DecidableEq, Repr

/-- A node with an identity. -/
inductive LiveNode where
  | element (link : Link) (tag : String) (attrs : Attributes) (children : List LiveNode)
      (ns : Option String)
  | text (link : Link) (value : String)
  | comment (link : Link) (data : String)
deriving Repr

namespace LiveNode

/-- The identity of a node and its parent. -/
def link : LiveNode → Link
  | element link _ _ _ _ => link
  | text link _ => link
  | comment link _ => link

/-- The identity of a node. -/
def id (n : LiveNode) : NodeId := n.link.id

/-- The parent that a node remembers. -/
def parent (n : LiveNode) : Option NodeId := n.link.parent

/-- The same node with another parent. -/
def withParent (parent : Option NodeId) : LiveNode → LiveNode
  | element link tag attrs children ns => element { link with parent } tag attrs children ns
  | text link value => text { link with parent } value
  | comment link data => comment { link with parent } data

/-- The nodes right below; a text and a comment have none. -/
def children : LiveNode → List LiveNode
  | element _ _ _ children _ => children
  | _ => []

/-- The same node with other nodes right below it; nothing changes for a text and a comment. -/
def withChildren (children : List LiveNode) : LiveNode → LiveNode
  | element link tag attrs _ ns => element link tag attrs children ns
  | n => n

/-- The same node with its attributes changed; nothing changes for a text and a comment. -/
def mapAttributes (f : Attributes → Attributes) : LiveNode → LiveNode
  | element link tag attrs children ns => element link tag (f attrs) children ns
  | n => n

mutual

/-- The plain tree of a node. -/
def plain : LiveNode → Node
  | element _ tag attrs children ns => .element tag attrs (plainAll children) ns
  | text _ value => .text value
  | comment _ data => .comment data

/-- The plain trees of several nodes. -/
def plainAll : List LiveNode → List Node
  | [] => []
  | n :: ns => plain n :: plainAll ns

end

mutual

/-- The number of nodes of a subtree. -/
def size : LiveNode → Nat
  | element _ _ _ children _ => sizeAll children + 1
  | text .. => 1
  | comment .. => 1

/-- The number of nodes of several subtrees. -/
def sizeAll : List LiveNode → Nat
  | [] => 0
  | n :: ns => n.size + sizeAll ns

end

mutual

/-- A plain tree as nodes with new identities, from `next` on, and the first identity that is then
    still free. -/
def ofPlain (parent : Option NodeId) (next : NodeId) : Node → LiveNode × NodeId
  | .element tag attrs children ns =>
    let (below, free) := ofPlainAll next (next + 1) children
    (element ⟨next, parent⟩ tag attrs below ns, free)
  | .text value => (text ⟨next, parent⟩ value, next + 1)
  | .comment data => (comment ⟨next, parent⟩ data, next + 1)

/-- Plain trees below a holder as nodes with new identities. -/
def ofPlainAll (holder : NodeId) (next : NodeId) : List Node → List LiveNode × NodeId
  | [] => ([], next)
  | n :: ns =>
    let (first, free) := ofPlain (some holder) next n
    let (rest, free) := ofPlainAll holder free ns
    (first :: rest, free)

end

@[simp] theorem plain_withParent (parent : Option NodeId) (n : LiveNode) :
    (n.withParent parent).plain = n.plain := by
  cases n <;> rfl

mutual

theorem plain_ofPlain (parent : Option NodeId) (next : NodeId) :
    ∀ n : Node, (ofPlain parent next n).1.plain = n
  | .element tag attrs children ns => by
    simp [ofPlain, plain, plainAll_ofPlainAll next (next + 1) children]
  | .text value => rfl
  | .comment data => rfl

theorem plainAll_ofPlainAll (holder next : NodeId) :
    ∀ ns : List Node, plainAll (ofPlainAll holder next ns).1 = ns
  | [] => rfl
  | n :: ns => by
    simp [ofPlainAll, plainAll, plain_ofPlain (some holder) next n,
      plainAll_ofPlainAll holder (ofPlain (some holder) next n).2 ns]

end

theorem plainAll_eq_map (ns : List LiveNode) : plainAll ns = ns.map plain := by
  induction ns with
  | nil => rfl
  | cons n ns ih => simp [plainAll, ih]

end LiveNode

/-- The way from a document to a node: the slots to go through. -/
abbrev Path := List Nat

/-- A document with an identity of its own. All identities from `next` on are free. -/
structure LiveDocument where
  id : NodeId
  children : List LiveNode
  next : NodeId
deriving Repr

namespace LiveDocument

/-- A plain tree as a document in which every node is new. -/
def ofPlain (ns : Fragment) : LiveDocument :=
  let (children, next) := LiveNode.ofPlainAll 0 1 ns
  { id := 0, children, next }

/-- The plain tree of a document. -/
def plain (d : LiveDocument) : Fragment := LiveNode.plainAll d.children

theorem plain_ofPlain (ns : Fragment) : (ofPlain ns).plain = ns :=
  LiveNode.plainAll_ofPlainAll 0 1 ns

end LiveDocument

/-- A whole document or one of its nodes. -/
inductive LivePart where
  | document (d : LiveDocument)
  | node (n : LiveNode)

namespace LivePart

/-- The identity of a part. -/
def id : LivePart → NodeId
  | document d => d.id
  | node n => n.id

/-- The nodes right below. -/
def children : LivePart → List LiveNode
  | document d => d.children
  | node n => n.children

/-- The plain form of a part. -/
def plain : LivePart → Part
  | document d => .fragment d.plain
  | node n => .node n.plain

end LivePart

namespace LiveNode

/-- The node at a path below some slots. -/
def find? (slots : List LiveNode) : Path → Option LiveNode
  | [] => none
  | [index] => slots[index]?
  | index :: path => slots[index]?.bind fun n => find? n.children path

/-- Some slots with the node at a path changed. -/
def modifyAt (f : LiveNode → LiveNode) (slots : List LiveNode) : Path → List LiveNode
  | [] => slots
  | [index] => slots.modify index f
  | index :: path => slots.modify index fun n => n.withChildren (modifyAt f n.children path)

end LiveNode

namespace LiveDocument

/-- The part at a path. -/
def find? (d : LiveDocument) : Path → Option LivePart
  | [] => some (.document d)
  | path => (LiveNode.find? d.children path).map .node

end LiveDocument
end MarkupCleaner
