import MarkupCleaner.Live.Passes
import MarkupCleaner.Proofs.Tree.Nodes

/-!
# Edits of plain trees

Four passes of the cleanup only edit tags, attributes and texts on the way down. What they have in
common is proved of all edits: the shape of the tree stays as it is.
-/

namespace MarkupCleaner.Live.Edit

open Node Cleanup

variable {σ : Type}

mutual

/-- Edits a plain subtree. -/
def onNode (e : Edit σ) (s : σ) : Node → Node
  | .element tag attrs children ns =>
    .element (e.tag s tag attrs) (e.attrs s tag attrs) (onAll e (e.below s tag attrs) children) ns
  | .text value => .text (e.text s value)
  | .comment data => .comment data

/-- Edits several plain subtrees. -/
def onAll (e : Edit σ) (s : σ) : List Node → List Node
  | [] => []
  | n :: ns => onNode e s n :: onAll e s ns

end

/-- The node itself edited, with everything below it left alone. -/
def atNode (e : Edit σ) (s : σ) : Node → Node
  | .element tag attrs children ns => .element (e.tag s tag attrs) (e.attrs s tag attrs) children ns
  | .text value => .text (e.text s value)
  | .comment data => .comment data

theorem onAll_eq_map (e : Edit σ) (s : σ) (ns : List Node) : e.onAll s ns = ns.map (e.onNode s) := by
  induction ns with
  | nil => rfl
  | cons n ns ih => rw [onAll, ih, List.map_cons]

/-! ## The passes that are edits -/

/-- A change to nodes that does what an edit says at every constructor. -/
structure Describes (e : Edit σ) (f : σ → Node → Node) : Prop where
  element : ∀ s tag attrs children ns, f s (.element tag attrs children ns) =
    .element (e.tag s tag attrs) (e.attrs s tag attrs) (children.map (f (e.below s tag attrs))) ns
  text : ∀ s value, f s (.text value) = .text (e.text s value)
  comment : ∀ s data, f s (.comment data) = .comment data

mutual

theorem Describes.onNode_eq {e : Edit σ} {f : σ → Node → Node} (h : e.Describes f) (s : σ) :
    ∀ n : Node, e.onNode s n = f s n
  | .element tag attrs children ns => by rw [onNode, h.onAll_eq, h.element]
  | .text value => (h.text s value).symm
  | .comment data => (h.comment s data).symm

theorem Describes.onAll_eq {e : Edit σ} {f : σ → Node → Node} (h : e.Describes f) (s : σ) :
    ∀ ns : List Node, e.onAll s ns = ns.map (f s)
  | [] => rfl
  | n :: ns => by rw [onAll, h.onNode_eq, h.onAll_eq, List.map_cons]

end

theorem describes_whitespaceEdit : whitespaceEdit.Describes normalizeNode where
  element s tag attrs children ns := by
    rw [normalizeNode, normalizeBelow_eq_map]
    rfl
  text _ _ := rfl
  comment _ _ := rfl

theorem describes_semanticEdit : semanticEdit.Describes fun _ => semanticNode where
  element s tag attrs children ns := by
    rw [semanticNode, semanticBelow_eq_map]
    rfl
  text _ _ := rfl
  comment _ _ := rfl

theorem describes_duplicateEdit : duplicateEdit.Describes fun _ => distinctNode where
  element s tag attrs children ns := by
    rw [distinctNode, distinctBelow_eq_map]
    rfl
  text _ _ := rfl
  comment _ _ := rfl

theorem describes_nestingEdit : nestingEdit.Describes nestNode where
  element s tag attrs children ns := by
    rw [nestNode, nestBelow_eq_map]
    rfl
  text _ _ := rfl
  comment _ _ := rfl

theorem onAll_whitespaceEdit (kept : Bool) (ns : List Node) :
    whitespaceEdit.onAll kept ns = normalizeBelow kept ns := by
  rw [describes_whitespaceEdit.onAll_eq, normalizeBelow_eq_map]

theorem onAll_semanticEdit (ns : List Node) : semanticEdit.onAll () ns = semanticBelow ns := by
  rw [describes_semanticEdit.onAll_eq, semanticBelow_eq_map]

theorem onAll_duplicateEdit (ns : List Node) : duplicateEdit.onAll () ns = distinctBelow ns := by
  rw [describes_duplicateEdit.onAll_eq, distinctBelow_eq_map]

theorem onAll_nestingEdit (inParagraph : Bool) (ns : List Node) :
    nestingEdit.onAll inParagraph ns = nestBelow inParagraph ns := by
  rw [describes_nestingEdit.onAll_eq, nestBelow_eq_map]

/-! ## What every edit keeps -/

theorem isContent_onNode {e : Edit σ} (h : ∀ s value, Text.isBlank (e.text s value) = Text.isBlank value)
    (s : σ) (n : Node) : isContent (e.onNode s n) = isContent n := by
  cases n with
  | element tag attrs children ns => rfl
  | text value => rw [onNode, isContent, isContent, isWritten, isWritten, h]; rfl
  | comment data => rfl

/-- An edit that keeps blank texts blank and others not does not change what counts as content. -/
theorem any_isContent_onAll {e : Edit σ}
    (h : ∀ s value, Text.isBlank (e.text s value) = Text.isBlank value) (s : σ) (ns : List Node) :
    (e.onAll s ns).any isContent = ns.any isContent := by
  rw [onAll_eq_map, List.any_map]
  exact congrArg ns.any (funext (isContent_onNode h s))

mutual

theorem size_onNode (e : Edit σ) (s : σ) : ∀ n : Node, (e.onNode s n).size = n.size
  | .element tag attrs children ns => by rw [onNode, size, sizeAll_onAll, size]
  | .text value => rfl
  | .comment data => rfl

theorem sizeAll_onAll (e : Edit σ) (s : σ) : ∀ ns : List Node,
    sizeAll (e.onAll s ns) = sizeAll ns
  | [] => rfl
  | n :: ns => by rw [onAll, sizeAll, size_onNode, sizeAll_onAll, sizeAll]

end

mutual

theorem forall_nodes_onNode {before after : Node → Prop} (e : Edit σ)
    (hnode : ∀ s n, before n → after (e.onNode s n)) (s : σ) : ∀ n : Node,
    (∀ m ∈ n.nodes, before m) → ∀ m ∈ (e.onNode s n).nodes, after m
  | .element tag attrs children ns, h => by
    obtain ⟨hself, hbelow⟩ := forall_nodes_element.1 h
    exact forall_nodes_element.2 ⟨hnode s _ hself, forall_nodesAll_onAll e hnode _ children hbelow⟩
  | .text value, h => forall_nodes_text.2 (hnode s _ (forall_nodes_text.1 h))
  | .comment data, h => forall_nodes_comment.2 (hnode s _ (forall_nodes_comment.1 h))

/-- What holds of every node of a tree, and what it says of the edited nodes. -/
theorem forall_nodesAll_onAll {before after : Node → Prop} (e : Edit σ)
    (hnode : ∀ s n, before n → after (e.onNode s n)) (s : σ) : ∀ ns : List Node,
    (∀ m ∈ nodesAll ns, before m) → ∀ m ∈ nodesAll (e.onAll s ns), after m
  | [], _ => fun m hm => nomatch hm
  | n :: ns, h => by
    obtain ⟨hn, hns⟩ := forall_nodesAll_cons.1 h
    exact forall_nodesAll_cons.2
      ⟨forall_nodes_onNode e hnode s n hn, forall_nodesAll_onAll e hnode s ns hns⟩

end

mutual

theorem onNode_eq_self (e : Edit σ) (s : σ) : ∀ n : Node,
    (∀ m ∈ n.nodes, ∀ s, e.atNode s m = m) → e.onNode s n = n
  | .element tag attrs children ns, h => by
    obtain ⟨hself, hbelow⟩ := forall_nodes_element.1 h
    have hlabel := hself s
    rw [atNode, Node.element.injEq] at hlabel
    rw [onNode, onAll_eq_self e _ children hbelow, hlabel.1, hlabel.2.1]
  | .text value, h => forall_nodes_text.1 h s
  | .comment data, _ => rfl

/-- A tree in which the edit changes no node is left as it is. -/
theorem onAll_eq_self (e : Edit σ) (s : σ) : ∀ ns : List Node,
    (∀ m ∈ nodesAll ns, ∀ s, e.atNode s m = m) → e.onAll s ns = ns
  | [], _ => rfl
  | n :: ns, h => by
    obtain ⟨hn, hns⟩ := forall_nodesAll_cons.1 h
    rw [onAll, onNode_eq_self e s n hn, onAll_eq_self e s ns hns]

end

/-! What an edit does to tags and attributes is all that matters to properties of these. -/

theorem onElement_onAll {before after : String → Attributes → Prop} (e : Edit σ)
    (helement : ∀ s tag attrs, before tag attrs → after (e.tag s tag attrs) (e.attrs s tag attrs))
    (s : σ) {ns : List Node} (h : ∀ n ∈ nodesAll ns, OnElement before n) :
    ∀ n ∈ nodesAll (e.onAll s ns), OnElement after n := by
  refine forall_nodesAll_onAll e (fun s n hn => ?_) s ns h
  cases n with
  | element tag attrs children ns => exact helement s tag attrs hn
  | text value => trivial
  | comment data => trivial

theorem onAll_eq_self_of_onElement {good : String → Attributes → Prop} (e : Edit σ)
    (htext : ∀ s value, e.text s value = value)
    (helement : ∀ s tag attrs, good tag attrs → e.tag s tag attrs = tag ∧ e.attrs s tag attrs = attrs)
    (s : σ) {ns : List Node} (h : ∀ n ∈ nodesAll ns, OnElement good n) : e.onAll s ns = ns := by
  refine onAll_eq_self e s ns fun n hn s => ?_
  cases n with
  | element tag attrs children ns =>
    obtain ⟨htag, hattrs⟩ := helement s tag attrs (h _ hn)
    rw [atNode, htag, hattrs]
  | text value => rw [atNode, htext]
  | comment data => rfl

/-- An edit that changes nothing more when it is made a second time. -/
structure Settles (e : Edit σ) : Prop where
  tag : ∀ s tag attrs, e.tag s (e.tag s tag attrs) (e.attrs s tag attrs) = e.tag s tag attrs
  attrs : ∀ s tag attrs, e.attrs s (e.tag s tag attrs) (e.attrs s tag attrs) = e.attrs s tag attrs
  text : ∀ s value, e.text s (e.text s value) = e.text s value
  below : ∀ s tag attrs, e.below s (e.tag s tag attrs) (e.attrs s tag attrs) = e.below s tag attrs

mutual

theorem Settles.onNode_onNode {e : Edit σ} (h : e.Settles) (s : σ) : ∀ n : Node,
    e.onNode s (e.onNode s n) = e.onNode s n
  | .element tag attrs children ns => by
    rw [onNode, onNode, h.tag, h.attrs, h.below, h.onAll_onAll]
  | .text value => congrArg Node.text (h.text s value)
  | .comment data => rfl

theorem Settles.onAll_onAll {e : Edit σ} (h : e.Settles) (s : σ) : ∀ ns : List Node,
    e.onAll s (e.onAll s ns) = e.onAll s ns
  | [] => rfl
  | n :: ns => by rw [onAll, onAll, h.onNode_onNode, h.onAll_onAll]

end

end MarkupCleaner.Live.Edit
