import MarkupCleaner.Cleanup.Empty
import MarkupCleaner.Proofs.Tree.Nodes

/-!
# What the removal of empty nodes leaves

A node is hollow if it is removed as it stands: a blank text, or a wrapper without content. After the
pass no node is hollow, and a tree without hollow nodes is left as it is. A pass that changes anything
leaves fewer nodes.
-/

namespace MarkupCleaner.Cleanup

open Node

/-- Whether a node is a blank text or a wrapper without content. -/
def isHollow : Node → Bool
  | .element tag _ children _ => isWrapper tag && !children.any isContent
  | .text value => Text.isBlank value
  | .comment _ => false

/-- What is content makes content of whatever it is in. -/
theorem any_isContent_of_mem {n : Node} {ns : List Node} (hn : n ∈ nodesAll ns)
    (hcontent : isContent n = true) : ns.any isContent = true := by
  obtain ⟨c, hc, hn⟩ := mem_nodesAll.1 hn
  refine List.any_eq_true.2 ⟨c, hc, ?_⟩
  cases c with
  | element tag attrs children space => rfl
  | text value =>
    obtain rfl := List.mem_singleton.1 hn
    exact hcontent
  | comment data =>
    obtain rfl := List.mem_singleton.1 hn
    exact hcontent

/-- The node with what is below it treated. -/
def prunedInside : Node → Node
  | .element tag attrs children ns => .element tag attrs (prune children) ns
  | .text value => .text value
  | .comment data => .comment data

/-- A node goes if it is hollow once what is below it has been treated. -/
theorem pruneNode_eq (n : Node) :
    pruneNode n = if isHollow (prunedInside n) then none else some (prunedInside n) := by
  cases n <;> rfl

theorem toList_pruneNode_of_hollow {n : Node} (h : isHollow (prunedInside n) = true) :
    (pruneNode n).toList = [] := by
  rw [pruneNode_eq, if_pos h]
  rfl

theorem toList_pruneNode_of_not_hollow {n : Node} (h : isHollow (prunedInside n) = false) :
    (pruneNode n).toList = [prunedInside n] := by
  rw [pruneNode_eq, if_neg (ne_true_of_eq_false h)]
  rfl

mutual

theorem forall_nodes_prunedInside {before after : Node → Prop}
    (hnode : ∀ n, before n → isHollow (prunedInside n) = false → after (prunedInside n)) :
    ∀ n : Node, (∀ m ∈ n.nodes, before m) →
    isHollow (prunedInside n) = false → ∀ m ∈ (prunedInside n).nodes, after m
  | .element tag attrs children ns, h, hkept => by
    obtain ⟨hself, hbelow⟩ := forall_nodes_element.1 h
    exact forall_nodes_element.2 ⟨hnode _ hself hkept, forall_nodesAll_prune hnode children hbelow⟩
  | .text value, h, hkept => forall_nodes_text.2 (hnode _ (forall_nodes_text.1 h) hkept)
  | .comment data, h, hkept => forall_nodes_comment.2 (hnode _ (forall_nodes_comment.1 h) hkept)

/-- What holds of every node of a tree, and what it says of the nodes that are kept, with less below
    them. -/
theorem forall_nodesAll_prune {before after : Node → Prop}
    (hnode : ∀ n, before n → isHollow (prunedInside n) = false → after (prunedInside n)) :
    ∀ ns : List Node, (∀ m ∈ nodesAll ns, before m) →
    ∀ m ∈ nodesAll (prune ns), after m
  | [], _ => fun m hm => nomatch hm
  | n :: ns, h => by
    obtain ⟨hn, hns⟩ := forall_nodesAll_cons.1 h
    have ih := forall_nodesAll_prune hnode ns hns
    rw [prune]
    by_cases hollow : isHollow (prunedInside n) = true
    · rw [toList_pruneNode_of_hollow hollow]
      exact ih
    · have hkept : isHollow (prunedInside n) = false := by simpa using hollow
      rw [toList_pruneNode_of_not_hollow hkept]
      exact forall_nodesAll_cons.2 ⟨forall_nodes_prunedInside hnode n hn hkept, ih⟩

end

/-- No node that the pass leaves is hollow. -/
theorem not_hollow_of_mem_prune (ns : List Node) : ∀ n ∈ nodesAll (prune ns), isHollow n = false :=
  forall_nodesAll_prune (fun _ _ hkept => hkept) ns fun _ _ => trivial

/-- What does not look at children still holds of the nodes that the pass leaves. -/
theorem of_mem_prune {good : Node → Prop} (hgood : IgnoresChildren good) {ns : List Node}
    (h : ∀ n ∈ nodesAll ns, good n) : ∀ n ∈ nodesAll (prune ns), good n := by
  refine forall_nodesAll_prune (fun n hn _ => ?_) ns h
  cases n with
  | element tag attrs children ns => exact hgood hn
  | text value => exact hn
  | comment data => exact hn

mutual

theorem prunedInside_eq_self : ∀ n : Node, (∀ m ∈ n.nodes, isHollow m = false) → prunedInside n = n
  | .element tag attrs children ns, h => by
    rw [prunedInside, prune_eq_self children (forall_nodes_element.1 h).2]
  | .text value, _ => rfl
  | .comment data, _ => rfl

/-- A tree without hollow nodes is left as it is. -/
theorem prune_eq_self : ∀ ns : List Node, (∀ m ∈ nodesAll ns, isHollow m = false) → prune ns = ns
  | [], _ => rfl
  | n :: ns, h => by
    obtain ⟨hn, hns⟩ := forall_nodesAll_cons.1 h
    have hself : isHollow n = false := by
      cases n with
      | element tag attrs children ns => exact (forall_nodes_element.1 hn).1
      | text value => exact forall_nodes_text.1 hn
      | comment data => rfl
    have hinside := prunedInside_eq_self n hn
    rw [prune, toList_pruneNode_of_not_hollow (by rw [hinside]; exact hself), hinside,
      prune_eq_self ns hns]
    rfl

end

theorem prune_eq_self_iff {ns : List Node} :
    prune ns = ns ↔ ∀ n ∈ nodesAll ns, isHollow n = false := by
  refine ⟨fun h => ?_, prune_eq_self ns⟩
  have hleft := not_hollow_of_mem_prune ns
  rwa [h] at hleft

/-! ## How much is left -/

mutual

theorem prunedInside_eq_self_or_size_lt : ∀ n : Node,
    prunedInside n = n ∨ (prunedInside n).size < n.size
  | .element tag attrs children ns => by
    rcases prune_eq_self_or_sizeAll_lt children with heq | hlt
    · exact Or.inl (by rw [prunedInside, heq])
    · exact Or.inr (Nat.succ_lt_succ hlt)
  | .text value => Or.inl rfl
  | .comment data => Or.inl rfl

/-- A pass that changes anything leaves fewer nodes. -/
theorem prune_eq_self_or_sizeAll_lt : ∀ ns : List Node,
    prune ns = ns ∨ sizeAll (prune ns) < sizeAll ns
  | [] => Or.inl rfl
  | n :: ns => by
    have hle : sizeAll (prune ns) ≤ sizeAll ns := sizeAll_le_of_eq_or_lt (prune_eq_self_or_sizeAll_lt ns)
    by_cases hollow : isHollow (prunedInside n) = true
    · refine Or.inr ?_
      have hpos := size_pos n
      rw [prune, toList_pruneNode_of_hollow hollow, List.nil_append, sizeAll]
      omega
    · rw [prune, toList_pruneNode_of_not_hollow (by simpa using hollow), List.cons_append,
        List.nil_append, sizeAll, sizeAll]
      rcases prunedInside_eq_self_or_size_lt n with hn | hn
      · rcases prune_eq_self_or_sizeAll_lt ns with hns | hns
        · exact Or.inl (by rw [hn, hns])
        · exact Or.inr (by rw [hn]; omega)
      · exact Or.inr (by omega)

end

end MarkupCleaner.Cleanup
