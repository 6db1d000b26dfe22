import MarkupCleaner.Live.Basic

/-!
# Child slots

Adding, exchanging and removing a child. A node that leaves its slot forgets its parent, and one that
comes into a slot remembers its holder. An index may count from the end: the last child is at -1.
-/

namespace MarkupCleaner.Live

/-- The slot that an index stands for among `count` slots. -/
def slot? (count : Nat) (index : Int) : Option Nat :=
  let place := if index < 0 then index + count else index
  if 0 ≤ place ∧ place < count then some place.toNat else none

/-- Adds a child at the end. -/
def append (holder : NodeId) (slots : List LiveNode) (child : LiveNode) : List LiveNode :=
  slots ++ [child.withParent (some holder)]

/-- The children after the one in a slot has been exchanged, and the one that has left its place if
    there is one: a child may be put into the slot where it already is. -/
def replace (holder : NodeId) (slots : List LiveNode) (place : Nat) (child : LiveNode) :
    List LiveNode × Option LiveNode :=
  let leaving := slots[place]?.filter fun previous => previous.id ≠ child.id
  (slots.set place (child.withParent (some holder)), leaving.map (LiveNode.withParent none))

/-- The children after the one in a slot has been removed, and the one that has left. -/
def remove (slots : List LiveNode) (place : Nat) : List LiveNode × Option LiveNode :=
  (slots.eraseIdx place, slots[place]?.map (LiveNode.withParent none))

end MarkupCleaner.Live
