import Mathlib.Tactic.Common
import MarkupCleaner.Tree.Node

/-!
# The nodes of a tree

All nodes of a tree in document order, an element before what is below it.
-/

namespace MarkupCleaner.Node

mutual

/-- The node and all nodes below it in document order. -/
def nodes : Node → List Node
  | .element tag attrs children ns => .element tag attrs children ns :: nodesAll children
  | .text value => [.text value]
  | .comment data => [.comment data]

/-- All nodes of several subtrees in document order. -/
def nodesAll : List Node → List Node
  | [] => []
  | n :: ns => n.nodes ++ nodesAll ns

end

@[simp] theorem nodesAll_nil : nodesAll [] = [] := rfl

theorem nodesAll_eq_flatMap (ns : List Node) : nodesAll ns = ns.flatMap nodes := by
  induction ns with
  | nil => rfl
  | cons n ns ih => rw [nodesAll, ih, List.flatMap_cons]

theorem nodesAll_append (ns ms : List Node) : nodesAll (ns ++ ms) = nodesAll ns ++ nodesAll ms := by
  rw [nodesAll_eq_flatMap, nodesAll_eq_flatMap, nodesAll_eq_flatMap, List.flatMap_append]

theorem mem_nodesAll {n : Node} {ns : List Node} : n ∈ nodesAll ns ↔ ∃ m ∈ ns, n ∈ m.nodes := by
  rw [nodesAll_eq_flatMap, List.mem_flatMap]

theorem self_mem_nodes (n : Node) : n ∈ n.nodes := by
  cases n <;> simp [nodes]

mutual

theorem mem_nodes_trans {m : Node} : ∀ {n k : Node}, m ∈ k.nodes → k ∈ n.nodes → m ∈ n.nodes
  | .element tag attrs children ns, k, hm, hk => by
    rw [nodes, List.mem_cons] at hk
    rcases hk with rfl | hk
    · exact hm
    · exact List.mem_cons_of_mem _ (mem_nodesAll_trans hm hk)
  | .text value, k, hm, hk => by
    obtain rfl := List.mem_singleton.1 hk
    exact hm
  | .comment data, k, hm, hk => by
    obtain rfl := List.mem_singleton.1 hk
    exact hm

/-- What is below a node of a tree is in the tree. -/
theorem mem_nodesAll_trans {m : Node} : ∀ {ns : List Node} {k : Node}, m ∈ k.nodes →
    k ∈ nodesAll ns → m ∈ nodesAll ns
  | n :: ns, k, hm, hk => by
    rw [nodesAll, List.mem_append] at hk ⊢
    rcases hk with hk | hk
    · exact Or.inl (mem_nodes_trans hm hk)
    · exact Or.inr (mem_nodesAll_trans hm hk)

end

/-- The children of a node of a tree are in the tree. -/
theorem mem_nodesAll_of_mem_children {tag : String} {attrs : Attributes} {children ns : List Node}
    {space : Option String} {c : Node} (h : .element tag attrs children space ∈ nodesAll ns)
    (hc : c ∈ children) : c ∈ nodesAll ns := by
  refine mem_nodesAll_trans ?_ h
  exact List.mem_cons_of_mem _ (mem_nodesAll.2 ⟨c, hc, self_mem_nodes c⟩)

section

variable {good : Node → Prop}

@[simp] theorem forall_nodes_element {tag : String} {attrs : Attributes} {children : List Node}
    {ns : Option String} : (∀ n ∈ nodes (.element tag attrs children ns), good n) ↔
      good (.element tag attrs children ns) ∧ ∀ n ∈ nodesAll children, good n := by
  rw [nodes, List.forall_mem_cons]

@[simp] theorem forall_nodes_text {value : String} :
    (∀ n ∈ nodes (.text value), good n) ↔ good (.text value) := by
  rw [nodes, List.forall_mem_singleton]

@[simp] theorem forall_nodes_comment {data : String} :
    (∀ n ∈ nodes (.comment data), good n) ↔ good (.comment data) := by
  rw [nodes, List.forall_mem_singleton]

@[simp] theorem forall_nodesAll_cons {m : Node} {ns : List Node} :
    (∀ n ∈ nodesAll (m :: ns), good n) ↔ (∀ n ∈ m.nodes, good n) ∧ ∀ n ∈ nodesAll ns, good n := by
  rw [nodesAll, List.forall_mem_append]

end

/-- A property of the tag and the attributes of a node, if it is an element. -/
def OnElement (good : String → Attributes → Prop) : Node → Prop
  | .element tag attrs _ _ => good tag attrs
  | .text _ => True
  | .comment _ => True

instance {good : String → Attributes → Prop} [∀ tag attrs, Decidable (good tag attrs)] :
    (n : Node) → Decidable (OnElement good n)
  | .element tag attrs _ _ => inferInstanceAs (Decidable (good tag attrs))
  | .text _ => inferInstanceAs (Decidable True)
  | .comment _ => inferInstanceAs (Decidable True)

/-- A property that does not look at the children of an element. -/
def IgnoresChildren (good : Node → Prop) : Prop :=
  ∀ ⦃tag attrs children children' space⦄, good (.element tag attrs children space) →
    good (.element tag attrs children' space)

theorem ignoresChildren_onElement (good : String → Attributes → Prop) : IgnoresChildren (OnElement good) :=
  fun _ _ _ _ _ h => h

/-! ## How many there are -/

theorem size_pos (n : Node) : 0 < n.size := by
  cases n <;> simp [size]

theorem sizeAll_append (ns ms : List Node) : sizeAll (ns ++ ms) = sizeAll ns + sizeAll ms := by
  induction ns with
  | nil => simp [sizeAll]
  | cons n ns ih => rw [List.cons_append, sizeAll, sizeAll, ih, Nat.add_assoc]

theorem sizeAll_le_of_eq_or_lt {ns ms : List Node} (h : ms = ns ∨ sizeAll ms < sizeAll ns) :
    sizeAll ms ≤ sizeAll ns := by
  rcases h with rfl | hlt
  · exact Nat.le_refl _
  · exact Nat.le_of_lt hlt

end MarkupCleaner.Node
