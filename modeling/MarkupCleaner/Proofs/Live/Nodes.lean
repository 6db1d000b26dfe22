import Mathlib.Data.List.Nodup
import Mathlib.Tactic.Common
import MarkupCleaner.Live.Links
import MarkupCleaner.Proofs.Tree.Nodes

/-!
# The nodes of a live document

All nodes below a holder in document order, and which of them is above which. A new document numbers
its nodes in document order.
-/

namespace MarkupCleaner.LiveNode

mutual

/-- The node and all nodes below it in document order. -/
def nodes : LiveNode → List LiveNode
  | element link tag attrs children ns => element link tag attrs children ns :: nodesAll children
  | text link value => [text link value]
  | comment link data => [comment link data]

/-- All nodes of several subtrees in document order. -/
def nodesAll : List LiveNode → List LiveNode
  | [] => []
  | n :: ns => n.nodes ++ nodesAll ns

end

theorem nodes_eq_cons (n : LiveNode) : n.nodes = n :: nodesAll n.children := by
  cases n <;> rfl

@[simp] theorem children_withParent (parent : Option NodeId) (n : LiveNode) :
    (n.withParent parent).children = n.children := by
  cases n <;> rfl

/-- The tag of an element. -/
def tag? : LiveNode → Option String
  | element _ tag _ _ _ => some tag
  | text .. => none
  | comment .. => none

mutual

theorem ids_eq_map_nodes : ∀ n : LiveNode, n.ids = n.nodes.map id
  | element link tag attrs children ns => by
    rw [ids, nodes, idsAll_eq_map_nodesAll children]
    rfl
  | text link value => rfl
  | comment link data => rfl

theorem idsAll_eq_map_nodesAll : ∀ ns : List LiveNode, idsAll ns = (nodesAll ns).map id
  | [] => rfl
  | n :: ns => by
    rw [idsAll, nodesAll, ids_eq_map_nodes n, idsAll_eq_map_nodesAll ns, List.map_append]

end

theorem id_mem_ids {n m : LiveNode} (hm : m ∈ n.nodes) : m.id ∈ n.ids := by
  rw [ids_eq_map_nodes]
  exact List.mem_map_of_mem hm

theorem id_mem_idsAll {n : LiveNode} {ns : List LiveNode} (hn : n ∈ nodesAll ns) : n.id ∈ idsAll ns := by
  rw [idsAll_eq_map_nodesAll]
  exact List.mem_map_of_mem hn

/-- Distinct identities tell nodes apart. -/
theorem eq_of_id_eq {ns : List LiveNode} (hdistinct : (idsAll ns).Nodup) {n m : LiveNode}
    (hn : n ∈ nodesAll ns) (hm : m ∈ nodesAll ns) (hid : n.id = m.id) : n = m := by
  rw [idsAll_eq_map_nodesAll] at hdistinct
  exact List.inj_on_of_nodup_map hdistinct hn hm hid

theorem idsAll_append (ns ms : List LiveNode) : idsAll (ns ++ ms) = idsAll ns ++ idsAll ms := by
  induction ns with
  | nil => rfl
  | cons n ns ih => rw [List.cons_append, idsAll, idsAll, ih, List.append_assoc]

theorem nodesAll_append (ns ms : List LiveNode) :
    nodesAll (ns ++ ms) = nodesAll ns ++ nodesAll ms := by
  induction ns with
  | nil => rfl
  | cons n ns ih => rw [List.cons_append, nodesAll, nodesAll, ih, List.append_assoc]

theorem plainAll_append (ns ms : List LiveNode) :
    plainAll (ns ++ ms) = plainAll ns ++ plainAll ms := by
  rw [plainAll_eq_map, plainAll_eq_map, plainAll_eq_map, List.map_append]

/-- An element among a leaf and other nodes is among the others. -/
theorem mem_nodesAll_of_leaf {leaf n : LiveNode} {ns : List LiveNode} (hleaf : leaf.tag? = none)
    (hn : n ∈ nodesAll (leaf :: ns)) {tag : String} (htag : n.tag? = some tag) : n ∈ nodesAll ns := by
  rw [nodesAll, List.mem_append] at hn
  refine hn.resolve_left fun hmem => ?_
  cases leaf with
  | element link tag attrs children space => cases hleaf
  | text link value =>
    obtain rfl := List.mem_singleton.1 hmem
    cases htag
  | comment link data =>
    obtain rfl := List.mem_singleton.1 hmem
    cases htag

/-! ## The plain tree -/

mutual

theorem nodes_plain : ∀ n : LiveNode, n.plain.nodes = n.nodes.map plain
  | element link tag attrs children ns => by
    rw [plain, Node.nodes, nodes, nodesAll_plainAll children]
    rfl
  | text link value => rfl
  | comment link data => rfl

theorem nodesAll_plainAll : ∀ ns : List LiveNode, Node.nodesAll (plainAll ns) = (nodesAll ns).map plain
  | [] => rfl
  | n :: ns => by rw [plainAll, Node.nodesAll, nodesAll, nodes_plain n, nodesAll_plainAll ns, List.map_append]

end

theorem plain_mem_nodesAll {n : LiveNode} {ns : List LiveNode} (hn : n ∈ nodesAll ns) :
    n.plain ∈ Node.nodesAll (plainAll ns) := by
  rw [nodesAll_plainAll]
  exact List.mem_map_of_mem hn

/-! ## Sizes -/

mutual

theorem size_plain : ∀ n : LiveNode, n.plain.size = n.size
  | element link tag attrs children ns => by rw [plain, Node.size, sizeAll_plainAll, size]
  | text link value => rfl
  | comment link data => rfl

theorem sizeAll_plainAll : ∀ ns : List LiveNode, Node.sizeAll (plainAll ns) = sizeAll ns
  | [] => rfl
  | n :: ns => by rw [plainAll, Node.sizeAll, size_plain, sizeAll_plainAll, sizeAll]

end

theorem size_pos (n : LiveNode) : 0 < n.size := by
  rw [← size_plain]
  exact Node.size_pos n.plain

theorem sizeAll_append (ns ms : List LiveNode) : sizeAll (ns ++ ms) = sizeAll ns + sizeAll ms := by
  rw [← sizeAll_plainAll, plainAll_append, Node.sizeAll_append, sizeAll_plainAll, sizeAll_plainAll]

theorem sizeAll_children_lt (n : LiveNode) : sizeAll n.children < n.size := by
  cases n with
  | element link tag attrs children ns => exact Nat.lt_succ_self _
  | text link value => exact Nat.zero_lt_one
  | comment link data => exact Nat.zero_lt_one

/-! ## Ancestors -/

/-- Whether a node below some slots has another one below it. -/
def IsAncestor (ns : List LiveNode) (a b : NodeId) : Prop :=
  ∃ n ∈ nodesAll ns, n.id = a ∧ b ∈ idsAll n.children

variable {a b : NodeId} {ns ms : List LiveNode}

theorem isAncestor_append :
    IsAncestor (ns ++ ms) a b ↔ IsAncestor ns a b ∨ IsAncestor ms a b := by
  unfold IsAncestor
  rw [nodesAll_append]
  simp only [List.mem_append, or_and_right, exists_or]

theorem isAncestor_element {link : Link} {tag : String} {attrs : Attributes}
    {children : List LiveNode} {space : Option String} :
    IsAncestor (element link tag attrs children space :: ns) a b ↔
      (link.id = a ∧ b ∈ idsAll children) ∨ IsAncestor children a b ∨ IsAncestor ns a b := by
  unfold IsAncestor
  rw [nodesAll, nodes]
  simp only [List.cons_append, List.mem_cons, List.mem_append, or_and_right, exists_or,
    exists_eq_left]
  exact Iff.rfl

theorem isAncestor_text {link : Link} {value : String} :
    IsAncestor (text link value :: ns) a b ↔ IsAncestor ns a b := by
  unfold IsAncestor
  rw [nodesAll, nodes]
  simp [children, idsAll]

theorem isAncestor_comment {link : Link} {data : String} :
    IsAncestor (comment link data :: ns) a b ↔ IsAncestor ns a b := by
  unfold IsAncestor
  rw [nodesAll, nodes]
  simp [children, idsAll]

mutual

theorem nodes_children_subset : ∀ n : LiveNode, ∀ m ∈ n.nodes, nodesAll m.children ⊆ n.nodes
  | element link tag attrs children ns, m, hm => by
    rw [nodes, List.mem_cons] at hm
    rcases hm with rfl | hm
    · exact List.subset_cons_self _ _
    · exact List.Subset.trans (nodesAll_children_subset children m hm) (List.subset_cons_self _ _)
  | text link value, m, hm => by
    obtain rfl := List.mem_singleton.1 hm
    exact List.nil_subset _
  | comment link data, m, hm => by
    obtain rfl := List.mem_singleton.1 hm
    exact List.nil_subset _

/-- What is below a node of a tree is in the tree. -/
theorem nodesAll_children_subset : ∀ ns : List LiveNode, ∀ m ∈ nodesAll ns,
    nodesAll m.children ⊆ nodesAll ns
  | n :: ns, m, hm => by
    rw [nodesAll, List.mem_append] at hm
    rcases hm with hm | hm
    · exact List.Subset.trans (nodes_children_subset n m hm) (List.subset_append_left _ _)
    · exact List.Subset.trans (nodesAll_children_subset ns m hm) (List.subset_append_right _ _)

end

theorem idsAll_children_subset (ns : List LiveNode) (m : LiveNode) (hm : m ∈ nodesAll ns) :
    idsAll m.children ⊆ idsAll ns := by
  rw [idsAll_eq_map_nodesAll, idsAll_eq_map_nodesAll]
  exact List.map_subset _ (nodesAll_children_subset ns m hm)

theorem IsAncestor.mem (h : IsAncestor ns a b) : a ∈ idsAll ns ∧ b ∈ idsAll ns := by
  obtain ⟨n, hn, rfl, hb⟩ := h
  exact ⟨id_mem_idsAll hn, idsAll_children_subset ns n hn hb⟩

/-! ## New documents -/

mutual

theorem ids_ofPlain (parent : Option NodeId) (next : NodeId) : ∀ n : Node,
    (ofPlain parent next n).1.ids = List.range' next n.size ∧
      (ofPlain parent next n).2 = next + n.size
  | .element tag attrs children ns => by
    obtain ⟨hids, hfree⟩ := idsAll_ofPlainAll next (next + 1) children
    simp only [ofPlain, ids, Node.size, hids, hfree]
    refine ⟨?_, Nat.add_right_comm next 1 _⟩
    rw [List.range'_succ]
  | .text value => ⟨rfl, rfl⟩
  | .comment data => ⟨rfl, rfl⟩

/-- The nodes of a new document are numbered in document order. -/
theorem idsAll_ofPlainAll (holder next : NodeId) : ∀ ns : List Node,
    idsAll (ofPlainAll holder next ns).1 = List.range' next (Node.sizeAll ns) ∧
      (ofPlainAll holder next ns).2 = next + Node.sizeAll ns
  | [] => ⟨rfl, rfl⟩
  | n :: ns => by
    obtain ⟨hids, hfree⟩ := ids_ofPlain (some holder) next n
    obtain ⟨hidsAll, hfreeAll⟩ := idsAll_ofPlainAll holder (next + n.size) ns
    simp only [ofPlainAll, idsAll, Node.sizeAll, hids, hfree, hidsAll, hfreeAll]
    refine ⟨?_, Nat.add_assoc next _ _⟩
    rw [List.range'_append_1]

end

theorem nodup_idsAll_ofPlain (ns : Fragment) : (idsAll (LiveDocument.ofPlain ns).children).Nodup := by
  have hids := (idsAll_ofPlainAll 0 1 ns).1
  show (idsAll (ofPlainAll 0 1 ns).1).Nodup
  rw [hids]
  exact List.nodup_range'

end MarkupCleaner.LiveNode
