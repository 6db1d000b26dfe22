import MarkupCleaner.Proofs.Cleanup.Empty

/-!
# The removal of empty nodes as a filter

The removal is a filter from the inside out: whether a node stays depends on what the filter has left
below it. What this comes to for an element can be seen without filtering anything: it goes exactly if it
and everything below it, on every level, is a wrapper, a comment or a blank text.
-/

namespace MarkupCleaner.Cleanup

open Node

/-- A filter that keeps comments and texts that are not blank, and drops a wrapper if it has left neither
    an element nor such a text in it. Any other element stays, with its children filtered. -/
structure IsFilter (g : Node → Option Node) : Prop where
  text : ∀ value, g (.text value) = if Text.isBlank value then none else some (.text value)
  comment : ∀ data, g (.comment data) = some (.comment data)
  element : ∀ tag attrs children ns, g (.element tag attrs children ns) =
    if isWrapper tag = true ∧ ∀ c ∈ children.filterMap g, isContent c = false then none
    else some (.element tag attrs (children.filterMap g) ns)

theorem isFilter_pruneNode : IsFilter pruneNode where
  text _ := rfl
  comment _ := rfl
  element tag attrs children ns := by
    have hkept : (children.filterMap pruneNode).any isContent = false ↔
        ∀ c ∈ children.filterMap pruneNode, isContent c = false := by
      rw [List.any_eq_false]
      simp only [Bool.not_eq_true]
    rw [pruneNode, prune_eq_filterMap]
    simp only [Bool.and_eq_true, Bool.not_eq_true', hkept]

mutual

theorem IsFilter.eq_pruneNode {g : Node → Option Node} (hg : IsFilter g) : ∀ n : Node, g n = pruneNode n
  | .element tag attrs children ns => by
    rw [hg.element, isFilter_pruneNode.element, hg.filterMap_eq_prune children, prune_eq_filterMap]
  | .text value => hg.text value
  | .comment data => hg.comment data

theorem IsFilter.filterMap_eq_prune {g : Node → Option Node} (hg : IsFilter g) :
    ∀ ns : List Node, ns.filterMap g = prune ns
  | [] => rfl
  | n :: ns => by
    rw [prune, List.filterMap_cons, hg.eq_pruneNode n, hg.filterMap_eq_prune ns]
    cases pruneNode n with
    | none => rfl
    | some kept => rfl

end

/-- There is one such filter. -/
theorem isFilter_iff {g : Node → Option Node} : IsFilter g ↔ g = pruneNode := by
  constructor
  · intro hg
    exact funext hg.eq_pruneNode
  · rintro rfl
    exact isFilter_pruneNode

/-! ## What goes -/

/-- Whether a node can be part of something empty: it is a wrapper, a comment or a blank text. -/
def isFiller : Node → Bool
  | .element tag _ _ _ => isWrapper tag
  | .text value => Text.isBlank value
  | .comment _ => true

mutual

theorem any_isContent_pruneNode : ∀ n : Node,
    (pruneNode n).toList.any isContent = false ↔ ∀ m ∈ n.nodes, isFiller m = true
  | .element tag attrs children ns => by
    have ih := any_isContent_prune children
    rw [forall_nodes_element, ← ih]
    constructor
    · intro h
      by_cases hempty : (isWrapper tag && !(prune children).any isContent) = true
      · simpa [isFiller] using hempty
      · -- an element that stays is content
        rw [pruneNode, if_neg hempty] at h
        cases h
    · rintro ⟨hwrapper, hbelow⟩
      have hempty : (isWrapper tag && !(prune children).any isContent) = true := by
        rw [hbelow, Bool.not_false, Bool.and_true]
        exact hwrapper
      rw [pruneNode, if_pos hempty]
      rfl
  | .text value => by
    rw [forall_nodes_text, isFiller, pruneNode]
    by_cases hblank : Text.isBlank value = true
    · simp [hblank]
    · simp [hblank, isContent, isWritten]
  | .comment data => by
    rw [forall_nodes_comment]
    simp [pruneNode, isContent, isElement, isWritten, isFiller]

/-- The filter leaves no content exactly if there is nothing but wrappers, comments and blank texts on any
    level. -/
theorem any_isContent_prune : ∀ ns : List Node,
    (prune ns).any isContent = false ↔ ∀ m ∈ nodesAll ns, isFiller m = true
  | [] => by simp [prune]
  | n :: ns => by
    rw [prune, List.any_append, Bool.or_eq_false_iff, any_isContent_pruneNode n, any_isContent_prune ns,
      forall_nodesAll_cons]

end

/-- An element goes exactly if there is nothing but wrappers, comments and blank texts in it, and it is a
    wrapper itself. -/
theorem isHollow_prunedInside_iff {n : Node} (h : n.isElement = true) :
    isHollow (prunedInside n) = true ↔ ∀ m ∈ n.nodes, isFiller m = true := by
  cases n with
  | element tag attrs children ns =>
    rw [forall_nodes_element, ← any_isContent_prune children, prunedInside, isHollow, isFiller]
    simp only [Bool.and_eq_true, Bool.not_eq_true']
  | text value => cases h
  | comment data => cases h

end MarkupCleaner.Cleanup
