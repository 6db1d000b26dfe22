import MarkupCleaner.Live.Classes
import MarkupCleaner.Live.Images
import MarkupCleaner.Proofs.Live.Cleanup

/-!
# Links that agree with the slots

A node is linked if it remembers the node that holds it. What is done to live documents keeps all nodes
linked: edits change neither links nor slots, the removal of empty nodes leaves subtrees as they are, a
child that is promoted is linked to its new holder, and new nodes are made linked.
-/

namespace MarkupCleaner.Live

open LiveNode

/-- Every node below a holder remembers the node that holds it. -/
def Linked (holder : NodeId) (ns : List LiveNode) : Prop :=
  (∀ n ∈ ns, n.parent = some holder) ∧ ∀ m ∈ nodesAll ns, ∀ c ∈ m.children, c.parent = some m.id

section

variable {holder : NodeId} {n : LiveNode} {ns ms : List LiveNode}

theorem linked_nil : Linked holder [] :=
  ⟨List.forall_mem_nil _, List.forall_mem_nil _⟩

theorem linked_cons :
    Linked holder (n :: ns) ↔ n.parent = some holder ∧ Linked n.id n.children ∧ Linked holder ns := by
  unfold Linked
  rw [nodesAll, nodes_eq_cons, List.forall_mem_cons, List.forall_mem_append, List.forall_mem_cons]
  constructor
  · rintro ⟨⟨hn, hns⟩, ⟨hchildren, hbelow⟩, hrest⟩
    exact ⟨hn, ⟨hchildren, hbelow⟩, hns, hrest⟩
  · rintro ⟨hn, ⟨hchildren, hbelow⟩, hns, hrest⟩
    exact ⟨⟨hn, hns⟩, ⟨hchildren, hbelow⟩, hrest⟩

theorem linked_append : Linked holder (ns ++ ms) ↔ Linked holder ns ∧ Linked holder ms := by
  induction ns with
  | nil => simp [linked_nil]
  | cons n ns ih => simp only [List.cons_append, linked_cons, ih, and_assoc]

theorem linked_singleton :
    Linked holder [n] ↔ n.parent = some holder ∧ Linked n.id n.children := by
  rw [linked_cons, and_iff_left linked_nil]

/-- Between other slots a node counts with what is below it. -/
theorem linked_between {front back : List LiveNode} : Linked holder (front ++ n :: back) ↔
    Linked holder front ∧ (n.parent = some holder ∧ Linked n.id n.children) ∧ Linked holder back := by
  rw [linked_append, linked_cons, and_assoc]

theorem linked_withParent (h : Linked n.id n.children) (holder : NodeId) :
    Linked holder [n.withParent (some holder)] := by
  rw [linked_singleton]
  cases n with
  | element link tag attrs children space => exact ⟨rfl, h⟩
  | text link value => exact ⟨rfl, h⟩
  | comment link data => exact ⟨rfl, h⟩

end

theorem ite_nil_eq_nil_iff {p : Prop} [Decidable p] {path : Path} :
    (if p then [] else [path]) = [] ↔ p := by
  by_cases hp : p <;> simp [hp]

mutual

theorem misplaced_eq_nil_iff (holder : NodeId) : ∀ (path : Path) (n : LiveNode),
    misplaced holder path n = [] ↔ n.parent = some holder ∧ Linked n.id n.children
  | path, .element link tag attrs children ns => by
    rw [misplaced, List.append_eq_nil_iff, misplacedFrom_eq_nil_iff link.id path 0 children,
      ite_nil_eq_nil_iff]
    exact Iff.rfl
  | path, .text link value => by
    rw [misplaced, ite_nil_eq_nil_iff]
    exact (and_iff_left linked_nil).symm
  | path, .comment link data => by
    rw [misplaced, ite_nil_eq_nil_iff]
    exact (and_iff_left linked_nil).symm

/-- No path leads to a node that does not remember its holder exactly if all nodes do. -/
theorem misplacedFrom_eq_nil_iff (holder : NodeId) : ∀ (path : Path) (index : Nat)
    (ns : List LiveNode), misplacedFrom holder path index ns = [] ↔ Linked holder ns
  | path, index, [] => iff_of_true rfl linked_nil
  | path, index, n :: ns => by
    rw [misplacedFrom, List.append_eq_nil_iff, misplaced_eq_nil_iff holder (path ++ [index]) n,
      misplacedFrom_eq_nil_iff holder path (index + 1) ns, linked_cons, and_assoc]

end

/-! ## New nodes -/

mutual

theorem linked_ofPlain (holder : NodeId) (next : NodeId) : ∀ n : Node,
    Linked holder [(ofPlain (some holder) next n).1]
  | .element tag attrs children ns => by
    rw [linked_singleton]
    exact ⟨rfl, linked_ofPlainAll next (next + 1) children⟩
  | .text value => linked_singleton.2 ⟨rfl, linked_nil⟩
  | .comment data => linked_singleton.2 ⟨rfl, linked_nil⟩

theorem linked_ofPlainAll (holder : NodeId) : ∀ (next : NodeId) (ns : List Node),
    Linked holder (ofPlainAll holder next ns).1
  | _, [] => linked_nil
  | next, n :: ns => by
    have hfirst := linked_ofPlain holder next n
    have hrest := linked_ofPlainAll holder (ofPlain (some holder) next n).2 ns
    exact linked_append.2 ⟨hfirst, hrest⟩

end

/-- A new node that no holder has yet. -/
theorem linked_children_ofPlain (next : NodeId) (n : Node) :
    Linked (ofPlain none next n).1.id (ofPlain none next n).1.children := by
  cases n with
  | element tag attrs children ns => exact linked_ofPlainAll next (next + 1) children
  | text value => exact linked_nil
  | comment data => exact linked_nil

/-! ## The class rules -/

mutual

theorem linked_classStep (engine : ClassRules.Engine) (holder : NodeId) : ∀ n : LiveNode,
    Linked holder [n] → Linked holder [(classStep engine n).1]
  | .element link tag attrs children ns, h => by
    rw [linked_singleton] at h
    rw [classStep]
    split
    · exact linked_singleton.2 h
    · exact linked_singleton.2 ⟨h.1, linked_classWalk engine link.id children h.2⟩
  | .text link value, h => h
  | .comment link data, h => h

/-- The class rules change attributes only, also where they stop half-way. -/
theorem linked_classWalk (engine : ClassRules.Engine) (holder : NodeId) : ∀ ns : List LiveNode,
    Linked holder ns → Linked holder (classWalk engine ns).1
  | [], _ => linked_nil
  | n :: ns, h => by
    rw [← List.singleton_append, linked_append] at h
    have hfirst := linked_classStep engine holder n h.1
    have hrest := linked_classWalk engine holder ns h.2
    rw [classWalk]
    generalize classStep engine n = step at hfirst ⊢
    obtain ⟨n, stopped⟩ := step
    cases stopped with
    | some fault => exact linked_append.2 ⟨hfirst, h.2⟩
    | none => exact linked_append.2 ⟨hfirst, hrest⟩

end

/-! ## The images -/

theorem linked_imageIn (holder next : NodeId) (image : Node) :
    Linked holder [(imageIn holder next image).node] :=
  linked_ofPlain holder next image

mutual

theorem linked_imageStep (options : ImageOptions) (holder : NodeId) : ∀ (next : NodeId) (n : LiveNode),
    Linked holder [n] → Linked holder [(imageStep options holder next n).node]
  | next, .element link tag attrs children ns, h => by
    rw [imageStep]
    split
    · split
      · exact linked_imageIn holder next _
      · exact h
    · rw [linked_singleton] at h
      have hwalk := linked_imageWalk options link.id next children h.2
      simp only
      split
      · exact linked_singleton.2 ⟨h.1, hwalk⟩
      · split
        · exact linked_imageIn holder _ _
        · exact linked_singleton.2 ⟨h.1, hwalk⟩
  | _, .text link value, h => h
  | _, .comment link data, h => h

/-- A new image is linked to the holder of its slot, also where the walk stops half-way. -/
theorem linked_imageWalk (options : ImageOptions) (holder : NodeId) : ∀ (next : NodeId)
    (ns : List LiveNode), Linked holder ns → Linked holder (imageWalk options holder next ns).slots
  | _, [], _ => linked_nil
  | next, n :: ns, h => by
    rw [← List.singleton_append, linked_append] at h
    have hfirst := linked_imageStep options holder next n h.1
    rw [imageWalk]
    split
    · exact linked_append.2 ⟨hfirst, h.2⟩
    · exact linked_append.2 ⟨hfirst, linked_imageWalk options holder _ ns h.2⟩

end

/-! ## The passes of the cleanup -/

mutual

theorem linked_editNode {σ : Type} (e : Edit σ) (holder : NodeId) : ∀ (s : σ) (n : LiveNode),
    Linked holder [n] → Linked holder [editNode e s n]
  | s, .element link tag attrs children ns, h => by
    rw [linked_singleton] at h ⊢
    exact ⟨h.1, linked_editBelow e link.id _ children h.2⟩
  | _, .text _ _, h => linked_singleton.2 ⟨(linked_singleton.1 h).1, linked_nil⟩
  | _, .comment _ _, h => h

/-- An edit changes no links and no slots. -/
theorem linked_editBelow {σ : Type} (e : Edit σ) (holder : NodeId) : ∀ (s : σ) (ns : List LiveNode),
    Linked holder ns → Linked holder (editBelow e s ns)
  | _, [], _ => linked_nil
  | s, n :: ns, h => by
    rw [← List.singleton_append, linked_append] at h
    rw [editBelow, ← List.singleton_append]
    exact linked_append.2 ⟨linked_editNode e holder s n h.1, linked_editBelow e holder s ns h.2⟩

end

mutual

theorem linked_prunedInside (holder : NodeId) : ∀ n : LiveNode,
    Linked holder [n] → Linked holder [prunedInside n]
  | .element link tag attrs children ns, h => by
    rw [linked_singleton] at h ⊢
    exact ⟨h.1, linked_pruned link.id children h.2⟩
  | .text link value, h => h
  | .comment link data, h => h

/-- What is not removed stays below its holder. -/
theorem linked_pruned (holder : NodeId) : ∀ ns : List LiveNode,
    Linked holder ns → Linked holder (pruned ns)
  | [], _ => linked_nil
  | n :: ns, h => by
    rw [← List.singleton_append, linked_append] at h
    have hrest := linked_pruned holder ns h.2
    rw [pruned]
    split
    · exact hrest
    · rw [← List.singleton_append]
      exact linked_append.2 ⟨linked_prunedInside holder n h.1, hrest⟩

end

mutual

theorem linked_flattened (holder : NodeId) : ∀ n : LiveNode,
    Linked holder [n] → Linked holder [flattened holder n]
  | .element link tag attrs children ns, h => by
    rw [linked_singleton] at h
    have hflat := linked_flattenedAll link.id children h.2
    rw [flattened]
    split
    · next inner hpromoted =>
      -- the promoted child was linked to the wrapper, and what is below it stays linked to it
      rw [(promoted?_eq_some hpromoted).2, linked_singleton] at hflat
      exact linked_withParent hflat.2 holder
    · exact linked_singleton.2 ⟨h.1, hflat⟩
  | .text link value, h => h
  | .comment link data, h => h

/-- What is promoted is linked to its new holder. -/
theorem linked_flattenedAll (holder : NodeId) : ∀ ns : List LiveNode,
    Linked holder ns → Linked holder (flattenedAll holder ns)
  | [], _ => linked_nil
  | n :: ns, h => by
    rw [← List.singleton_append, linked_append] at h
    rw [flattenedAll, ← List.singleton_append]
    exact linked_append.2 ⟨linked_flattened holder n h.1, linked_flattenedAll holder ns h.2⟩

end

theorem linked_applyPass (holder : NodeId) (pass : Cleanup.Pass) {ns : List LiveNode}
    (h : Linked holder ns) : Linked holder (applyPass holder pass ns) :=
  applyPass_cases (fun e s => linked_editBelow e holder s ns h) (linked_pruned holder ns h)
    (linked_flattenedAll holder ns h) pass

theorem linked_applyPasses (holder : NodeId) (passes : List Cleanup.Pass) {ns : List LiveNode}
    (h : Linked holder ns) : Linked holder (applyPasses holder passes ns) := by
  induction passes generalizing ns with
  | nil => exact h
  | cons pass passes ih => exact ih (linked_applyPass holder pass h)

end MarkupCleaner.Live
