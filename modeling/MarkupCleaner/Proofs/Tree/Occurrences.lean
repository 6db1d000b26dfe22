import MarkupCleaner.Proofs.Tree.Nodes

/-!
# Where nodes stand

All nodes of a tree in document order, each with the elements around it. A statement about all nodes can
so speak of the parent of a node, or of everything that a node is inside of.
-/

namespace MarkupCleaner.Node

/-- A node where it stands in a tree: inside the elements `around`, the innermost first. -/
structure Occurrence where
  around : List Node
  node : Node

/-- The tag of an element. -/
def tag? : Node → Option String
  | .element tag _ _ _ => some tag
  | .text _ => none
  | .comment _ => none

/-- The tag of the innermost of some elements. -/
def innermostTag? (around : List Node) : Option String := around.head?.bind tag?

/-- The tag of the parent. -/
def Occurrence.parentTag? (o : Occurrence) : Option String := innermostTag? o.around

mutual

/-- A node inside the given elements, and all nodes below it, in document order. -/
def occurrences (around : List Node) : Node → List Occurrence
  | .element tag attrs children ns =>
    ⟨around, .element tag attrs children ns⟩ ::
      occurrencesAll (.element tag attrs children ns :: around) children
  | .text value => [⟨around, .text value⟩]
  | .comment data => [⟨around, .comment data⟩]

/-- Several nodes inside the same elements, and all nodes below them, in document order. -/
def occurrencesAll (around : List Node) : List Node → List Occurrence
  | [] => []
  | n :: ns => occurrences around n ++ occurrencesAll around ns

end

mutual

theorem map_node_occurrences (around : List Node) : ∀ n : Node,
    (occurrences around n).map Occurrence.node = n.nodes
  | .element tag attrs children ns => by
    rw [occurrences, nodes, List.map_cons, map_node_occurrencesAll]
  | .text value => rfl
  | .comment data => rfl

/-- Every node stands somewhere, once for each time that it is in the tree. -/
theorem map_node_occurrencesAll (around : List Node) : ∀ ns : List Node,
    (occurrencesAll around ns).map Occurrence.node = nodesAll ns
  | [] => rfl
  | n :: ns => by
    rw [occurrencesAll, nodesAll, List.map_append, map_node_occurrences, map_node_occurrencesAll]

end

mutual

theorem around_suffix_of_mem_occurrences {around : List Node} {o : Occurrence} : ∀ {n : Node},
    o ∈ occurrences around n → around <:+ o.around
  | .element tag attrs children ns, h => by
    rw [occurrences, List.mem_cons] at h
    rcases h with rfl | h
    · exact List.suffix_refl around
    · exact (List.suffix_cons _ around).trans (around_suffix_of_mem_occurrencesAll h)
  | .text value, h => by
    obtain rfl := List.mem_singleton.1 h
    exact List.suffix_refl around
  | .comment data, h => by
    obtain rfl := List.mem_singleton.1 h
    exact List.suffix_refl around

/-- What is below nodes inside some elements is inside these elements. -/
theorem around_suffix_of_mem_occurrencesAll {around : List Node} {o : Occurrence} : ∀ {ns : List Node},
    o ∈ occurrencesAll around ns → around <:+ o.around
  | n :: ns, h => by
    rw [occurrencesAll, List.mem_append] at h
    rcases h with h | h
    · exact around_suffix_of_mem_occurrences h
    · exact around_suffix_of_mem_occurrencesAll h

end

section

variable {good : Occurrence → Prop} {around : List Node}

theorem forall_occurrences_element {tag : String} {attrs : Attributes} {children : List Node}
    {ns : Option String} : (∀ o ∈ occurrences around (.element tag attrs children ns), good o) ↔
      good ⟨around, .element tag attrs children ns⟩ ∧
        ∀ o ∈ occurrencesAll (.element tag attrs children ns :: around) children, good o := by
  rw [occurrences, List.forall_mem_cons]

theorem forall_occurrencesAll_cons {n : Node} {ns : List Node} :
    (∀ o ∈ occurrencesAll around (n :: ns), good o) ↔
      (∀ o ∈ occurrences around n, good o) ∧ ∀ o ∈ occurrencesAll around ns, good o := by
  rw [occurrencesAll, List.forall_mem_append]

end

end MarkupCleaner.Node
