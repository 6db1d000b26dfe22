import MarkupCleaner.Proofs.Cleanup.Edit
import MarkupCleaner.Proofs.Live.Nodes

/-!
# Editing in place

An edit leaves every node where it is.
-/

namespace MarkupCleaner.Live

open LiveNode

variable {σ : Type}

mutual

theorem plain_editNode (e : Edit σ) (s : σ) : ∀ n : LiveNode,
    (editNode e s n).plain = e.onNode s n.plain
  | .element link tag attrs children ns => by
    rw [editNode, plain, plain, Edit.onNode, plainAll_editBelow]
  | .text link value => rfl
  | .comment link data => rfl

theorem plainAll_editBelow (e : Edit σ) (s : σ) : ∀ ns : List LiveNode,
    plainAll (editBelow e s ns) = e.onAll s (plainAll ns)
  | [] => rfl
  | n :: ns => by
    rw [editBelow, plainAll, plainAll, Edit.onAll, plain_editNode, plainAll_editBelow]

end

mutual

theorem ids_editNode (e : Edit σ) (s : σ) : ∀ n : LiveNode, (editNode e s n).ids = n.ids
  | .element link tag attrs children ns => by rw [editNode, ids, ids, idsAll_editBelow]
  | .text link value => rfl
  | .comment link data => rfl

theorem idsAll_editBelow (e : Edit σ) (s : σ) : ∀ ns : List LiveNode,
    idsAll (editBelow e s ns) = idsAll ns
  | [] => rfl
  | n :: ns => by rw [editBelow, idsAll, idsAll, ids_editNode, idsAll_editBelow]

end

theorem id_editNode (e : Edit σ) (s : σ) (n : LiveNode) : (editNode e s n).id = n.id := by
  cases n <;> rfl

mutual

theorem exists_mem_nodes_editNode (e : Edit σ) (s : σ) : ∀ n : LiveNode, ∀ m ∈ n.nodes,
    ∃ s', editNode e s' m ∈ (editNode e s n).nodes
  | .element link tag attrs children ns, m, hm => by
    rw [nodes, List.mem_cons] at hm
    rcases hm with rfl | hm
    · exact ⟨s, List.mem_cons_self⟩
    · obtain ⟨s', hs'⟩ := exists_mem_nodesAll_editBelow e _ children m hm
      exact ⟨s', List.mem_cons_of_mem _ hs'⟩
  | .text link value, m, hm => by
    obtain rfl := List.mem_singleton.1 hm
    exact ⟨s, List.mem_singleton.2 rfl⟩
  | .comment link data, m, hm => by
    obtain rfl := List.mem_singleton.1 hm
    exact ⟨s, List.mem_singleton.2 rfl⟩

/-- Every node is edited in its place. -/
theorem exists_mem_nodesAll_editBelow (e : Edit σ) (s : σ) : ∀ ns : List LiveNode, ∀ m ∈ nodesAll ns,
    ∃ s', editNode e s' m ∈ nodesAll (editBelow e s ns)
  | n :: ns, m, hm => by
    rw [nodesAll, List.mem_append] at hm
    rcases hm with hm | hm
    · obtain ⟨s', hs'⟩ := exists_mem_nodes_editNode e s n m hm
      exact ⟨s', List.mem_append_left _ hs'⟩
    · obtain ⟨s', hs'⟩ := exists_mem_nodesAll_editBelow e s ns m hm
      exact ⟨s', List.mem_append_right _ hs'⟩

end

theorem isAncestor_editBelow (e : Edit σ) {a b : NodeId} : ∀ (s : σ) (ns : List LiveNode),
    IsAncestor (editBelow e s ns) a b ↔ IsAncestor ns a b
  | s, [] => Iff.rfl
  | s, .element link tag attrs children space :: ns => by
    rw [editBelow, editNode, isAncestor_element, isAncestor_element, idsAll_editBelow,
      isAncestor_editBelow e _ children, isAncestor_editBelow e s ns]
  | s, .text link value :: ns => by
    rw [editBelow, editNode, isAncestor_text, isAncestor_text, isAncestor_editBelow e s ns]
  | s, .comment link data :: ns => by
    rw [editBelow, editNode, isAncestor_comment, isAncestor_comment, isAncestor_editBelow e s ns]

end MarkupCleaner.Live
