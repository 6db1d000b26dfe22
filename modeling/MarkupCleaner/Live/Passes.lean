import MarkupCleaner.Cleanup.Pass
import MarkupCleaner.Live.Slots

/-!
# Cleaning up in place

The passes of the cleanup on live documents. Four passes only edit tags, attributes and texts on the
way down. The other two move nodes: empty wrappers are taken out by a loop from the last slot to the
first, so that what is removed does not shift the slots that are still to be visited, and wrappers are
flattened by a loop that visits a slot again after a child has been promoted into it.
-/

namespace MarkupCleaner.Live

/-- A way to edit nodes on the way down. What an element hands on to the nodes below it has type
    `σ`. -/
structure Edit (σ : Type) where
  tag : σ → String → Attributes → String := fun _ tag _ => tag
  attrs : σ → String → Attributes → Attributes := fun _ _ attrs => attrs
  text : σ → String → String := fun _ value => value
  below : σ → String → Attributes → σ

mutual

/-- Edits a subtree. -/
def editNode {σ : Type} (e : Edit σ) (s : σ) : LiveNode → LiveNode
  | .element link tag attrs children ns =>
    .element link (e.tag s tag attrs) (e.attrs s tag attrs)
      (editBelow e (e.below s tag attrs) children) ns
  | .text link value => .text link (e.text s value)
  | .comment link data => .comment link data

/-- Edits several subtrees. -/
def editBelow {σ : Type} (e : Edit σ) (s : σ) : List LiveNode → List LiveNode
  | [] => []
  | n :: ns => editNode e s n :: editBelow e s ns

end

/-- Collapses white space; what is handed on is whether an element keeps it. -/
def whitespaceEdit : Edit Bool where
  text kept value := if kept then value else Cleanup.normalText value
  below kept tag _ := kept || Cleanup.keepsWhitespace tag

/-- Gives elements their semantic tags. -/
def semanticEdit : Edit Unit where
  tag _ tag attrs := (Cleanup.semanticForm tag attrs).1
  attrs _ tag attrs := (Cleanup.semanticForm tag attrs).2
  below _ _ _ := ()

/-- Keeps the first attribute of every name. -/
def duplicateEdit : Edit Unit where
  attrs _ _ attrs := Cleanup.distinctAttributes attrs
  below _ _ _ := ()

/-- Mends nesting; what is handed on is whether the parent is a paragraph by now. -/
def nestingEdit : Edit Bool where
  tag inParagraph tag _ := Cleanup.nestedTag inParagraph tag
  below inParagraph tag _ := Cleanup.nestedTag inParagraph tag = "p"

/-- Whether a node is to be removed: a blank text, or a wrapper without content. -/
def isEmpty : LiveNode → Bool
  | .element _ tag _ children _ =>
    Cleanup.isWrapper tag && !(LiveNode.plainAll children).any Cleanup.isContent
  | .text _ value => Text.isBlank value
  | .comment .. => false

/-- Visits the first `count` slots, from the last of them to the first, and removes what is empty
    after its own slots have been visited. `fuel` has to exceed the depth of the tree. -/
def pruneSlots : (fuel : Nat) → (count : Nat) → List LiveNode → List LiveNode
  | _, 0, slots => slots
  | 0, _, slots => slots
  | fuel + 1, place + 1, slots =>
    match slots[place]? with
    | none => pruneSlots (fuel + 1) place slots
    | some child =>
      let below := child.children
      let child := child.withChildren (pruneSlots fuel below.length below)
      let slots := slots.set place child
      pruneSlots (fuel + 1) place (if isEmpty child then (remove slots place).1 else slots)
termination_by fuel count => (fuel, count)

/-- Removes what is empty below a holder. -/
def removeEmpty (slots : List LiveNode) : List LiveNode :=
  pruneSlots (LiveNode.sizeAll slots + 1) slots.length slots

/-- The child that a wrapper gives way to. -/
def promoted? : LiveNode → Option LiveNode
  | .element _ tag attrs [.element link tag' attrs' children' ns'] _ =>
    if Cleanup.isWrapper tag && !Cleanup.saysSomething attrs then
      some (.element link tag' attrs' children' ns')
    else none
  | _ => none

/-- Visits the slots from `place` on. A wrapper whose own slots have been visited gives way to its
    only child, and then the slot is visited again. `fuel` has to exceed the number of nodes that are
    still to be visited. -/
def flattenSlots (holder : NodeId) : (fuel : Nat) → (place : Nat) → List LiveNode → List LiveNode
  | 0, _, slots => slots
  | fuel + 1, place, slots =>
    match slots[place]? with
    | none => slots
    | some child =>
      let child := child.withChildren (flattenSlots child.id fuel 0 child.children)
      let slots := slots.set place child
      match promoted? child with
      | some inner => flattenSlots holder fuel place (replace holder slots place inner).1
      | none => flattenSlots holder fuel (place + 1) slots

/-- Flattens the wrappers below a holder. -/
def flattenWrappers (holder : NodeId) (slots : List LiveNode) : List LiveNode :=
  flattenSlots holder (LiveNode.sizeAll slots + 1) 0 slots

/-- What a pass does to the nodes below a holder. -/
def applyPass (holder : NodeId) : Cleanup.Pass → List LiveNode → List LiveNode
  | .normalizeWhitespace => editBelow whitespaceEdit false
  | .removeEmpty => removeEmpty
  | .semanticTags => editBelow semanticEdit ()
  | .flattenWrappers => flattenWrappers holder
  | .duplicateAttributes => editBelow duplicateEdit ()
  | .nesting => editBelow nestingEdit false

/-- Runs the passes that are switched on. -/
def cleanup (options : CleanupOptions) (holder : NodeId) (slots : List LiveNode) : List LiveNode :=
  (Cleanup.enabledPasses options).foldl (fun slots pass => applyPass holder pass slots) slots

end MarkupCleaner.Live
