import MarkupCleaner.Cleanup.Flatten
import MarkupCleaner.Proofs.Cleanup.Empty

/-!
# What the flattening of wrappers leaves

After the pass no wrapper is left that could give way to a single child, and a tree without such
wrappers is left as it is. A pass that changes anything leaves fewer nodes.
-/

namespace MarkupCleaner.Cleanup

open Node

theorem onlyChild?_eq_some {tag : String} {attrs : Attributes} {children : List Node} {c : Node} :
    onlyChild? tag attrs children = some c ↔
      isWrapper tag = true ∧ saysSomething attrs = false ∧ children = [c] ∧ c.isElement = true := by
  unfold onlyChild?
  split
  · next tag' attrs' children' ns' =>
    by_cases hw : (isWrapper tag && !saysSomething attrs) = true
    · rw [if_pos hw]
      simp only [Bool.and_eq_true, Bool.not_eq_true'] at hw
      constructor
      · intro h
        obtain rfl := Option.some.inj h
        exact ⟨hw.1, hw.2, rfl, rfl⟩
      · rintro ⟨-, -, hc, -⟩
        rw [(List.cons.inj hc).1]
    · rw [if_neg hw]
      constructor
      · intro h
        cases h
      · rintro ⟨htag, hattrs, -, -⟩
        exact absurd (by rw [htag, hattrs]; rfl) hw
  · next hne =>
    constructor
    · intro h
      cases h
    · rintro ⟨-, -, rfl, hc⟩
      cases c with
      | element tag' attrs' children' ns' => exact absurd rfl (hne tag' attrs' children' ns')
      | text value => cases hc
      | comment data => cases hc

/-- A change to every child that keeps elements and texts apart is made to the only child, too. -/
theorem onlyChild?_map {f : Node → Node} (hf : ∀ n, (f n).isElement = n.isElement) (tag : String)
    (attrs : Attributes) (children : List Node) :
    onlyChild? tag attrs (children.map f) = (onlyChild? tag attrs children).map f := by
  apply Option.ext
  intro c
  rw [Option.map_eq_some_iff, onlyChild?_eq_some]
  constructor
  · rintro ⟨htag, hattrs, hmap, hc⟩
    obtain ⟨n, rfl, rfl⟩ := List.map_eq_singleton_iff.1 hmap
    exact ⟨n, onlyChild?_eq_some.2 ⟨htag, hattrs, rfl, by rw [← hf, hc]⟩, rfl⟩
  · rintro ⟨n, hn, rfl⟩
    obtain ⟨htag, hattrs, rfl, hc⟩ := onlyChild?_eq_some.1 hn
    exact ⟨htag, hattrs, rfl, by rw [hf, hc]⟩

/-- The child that a node gives way to as it stands. -/
def soleChild? : Node → Option Node
  | .element tag attrs children _ => onlyChild? tag attrs children
  | .text _ => none
  | .comment _ => none

/-- The node with what is below it treated. -/
def flattenedInside : Node → Node
  | .element tag attrs children ns => .element tag attrs (flattenBelow children) ns
  | .text value => .text value
  | .comment data => .comment data

/-- A node gives way to a single child once what is below it has been treated. -/
theorem flattenNode_eq (n : Node) :
    flattenNode n = (soleChild? (flattenedInside n)).getD (flattenedInside n) := by
  cases n <;> rfl

theorem isElement_of_soleChild {n c : Node} (h : soleChild? n = some c) :
    n.isElement = true ∧ c.isElement = true := by
  cases n with
  | element tag attrs children ns => exact ⟨rfl, (onlyChild?_eq_some.1 h).2.2.2⟩
  | text value => cases h
  | comment data => cases h

theorem isElement_flattenedInside (n : Node) : (flattenedInside n).isElement = n.isElement := by
  cases n <;> rfl

@[simp] theorem isElement_flattenNode (n : Node) : (flattenNode n).isElement = n.isElement := by
  rw [flattenNode_eq]
  cases h : soleChild? (flattenedInside n) with
  | none => exact isElement_flattenedInside n
  | some c =>
    obtain ⟨hn, hc⟩ := isElement_of_soleChild h
    rw [Option.getD_some, hc, ← isElement_flattenedInside, hn]

theorem isContent_flattenNode (n : Node) : isContent (flattenNode n) = isContent n := by
  cases n with
  | element tag attrs children ns =>
    rw [isContent, isElement_flattenNode]
    rfl
  | text value => rfl
  | comment data => rfl

theorem any_isContent_flattenBelow (ns : List Node) :
    (flattenBelow ns).any isContent = ns.any isContent := by
  rw [flattenBelow_eq_map, List.any_map]
  exact congrArg ns.any (funext isContent_flattenNode)

mutual

theorem forall_nodes_flattenNode {before after : Node → Prop}
    (hnode : ∀ n, before n → soleChild? (flattenedInside n) = none → after (flattenedInside n)) :
    ∀ n : Node, (∀ m ∈ n.nodes, before m) →
    ∀ m ∈ (flattenNode n).nodes, after m
  | .element tag attrs children ns, h => by
    obtain ⟨hself, hbelow⟩ := forall_nodes_element.1 h
    have ih := forall_nodesAll_flattenBelow hnode children hbelow
    rw [flattenNode_eq, flattenedInside, soleChild?]
    cases hsole : onlyChild? tag attrs (flattenBelow children) with
    | none => exact forall_nodes_element.2 ⟨hnode (.element tag attrs children ns) hself hsole, ih⟩
    | some c =>
      obtain ⟨-, -, hflat, -⟩ := onlyChild?_eq_some.1 hsole
      rw [hflat] at ih
      exact (forall_nodesAll_cons.1 ih).1
  | .text value, h => forall_nodes_text.2 (hnode _ (forall_nodes_text.1 h) rfl)
  | .comment data, h => forall_nodes_comment.2 (hnode _ (forall_nodes_comment.1 h) rfl)

/-- What holds of every node of a tree, and what it says of the nodes that stay, with what is below
    them flat. -/
theorem forall_nodesAll_flattenBelow {before after : Node → Prop}
    (hnode : ∀ n, before n → soleChild? (flattenedInside n) = none → after (flattenedInside n)) :
    ∀ ns : List Node, (∀ m ∈ nodesAll ns, before m) →
    ∀ m ∈ nodesAll (flattenBelow ns), after m
  | [], _ => fun m hm => nomatch hm
  | n :: ns, h => by
    obtain ⟨hn, hns⟩ := forall_nodesAll_cons.1 h
    exact forall_nodesAll_cons.2
      ⟨forall_nodes_flattenNode hnode n hn, forall_nodesAll_flattenBelow hnode ns hns⟩

end

/-- No node that the pass leaves could give way to a child. -/
theorem soleChild?_of_mem_flattenBelow (ns : List Node) :
    ∀ n ∈ nodesAll (flattenBelow ns), soleChild? n = none :=
  forall_nodesAll_flattenBelow (fun _ _ hstays => hstays) ns fun _ _ => trivial

/-- What does not look at children still holds of the nodes that the pass leaves. -/
theorem of_mem_flattenBelow {good : Node → Prop} (hgood : IgnoresChildren good) {ns : List Node}
    (h : ∀ n ∈ nodesAll ns, good n) : ∀ n ∈ nodesAll (flattenBelow ns), good n := by
  refine forall_nodesAll_flattenBelow (fun n hn _ => ?_) ns h
  cases n with
  | element tag attrs children ns => exact hgood hn
  | text value => exact hn
  | comment data => exact hn

/-- A node that is not hollow does not become so: an element gives way to an element only. -/
theorem not_hollow_of_mem_flattenBelow {ns : List Node} (h : ∀ n ∈ nodesAll ns, isHollow n = false) :
    ∀ n ∈ nodesAll (flattenBelow ns), isHollow n = false := by
  refine forall_nodesAll_flattenBelow (fun n hn _ => ?_) ns h
  cases n with
  | element tag attrs children ns =>
    rw [flattenedInside, isHollow, any_isContent_flattenBelow]
    exact hn
  | text value => exact hn
  | comment data => rfl

mutual

theorem flattenedInside_eq_self : ∀ n : Node, (∀ m ∈ n.nodes, soleChild? m = none) →
    flattenedInside n = n
  | .element tag attrs children ns, h => by
    rw [flattenedInside, flattenBelow_eq_self children (forall_nodes_element.1 h).2]
  | .text value, _ => rfl
  | .comment data, _ => rfl

/-- A tree without wrappers that could give way is left as it is. -/
theorem flattenBelow_eq_self : ∀ ns : List Node, (∀ m ∈ nodesAll ns, soleChild? m = none) →
    flattenBelow ns = ns
  | [], _ => rfl
  | n :: ns, h => by
    obtain ⟨hn, hns⟩ := forall_nodesAll_cons.1 h
    have hself : soleChild? n = none := by
      cases n with
      | element tag attrs children ns => exact (forall_nodes_element.1 hn).1
      | text value => rfl
      | comment data => rfl
    rw [flattenBelow, flattenNode_eq, flattenedInside_eq_self n hn, hself, flattenBelow_eq_self ns hns]
    rfl

end

theorem flattenBelow_eq_self_iff {ns : List Node} :
    flattenBelow ns = ns ↔ ∀ n ∈ nodesAll ns, soleChild? n = none := by
  refine ⟨fun h => ?_, flattenBelow_eq_self ns⟩
  have hleft := soleChild?_of_mem_flattenBelow ns
  rwa [h] at hleft

/-! ## From the inside out -/

/-- When an element gives way to a child: it is a wrapper, the child is an element and the only one there
    is, and no attribute says anything. -/
structure GivesWay (tag : String) (attrs : Attributes) (children : List Node) (c : Node) : Prop where
  wrapper : isWrapper tag = true
  silent : saysSomething attrs = false
  only : children = [c]
  element : c.isElement = true

theorem givesWay_iff {tag : String} {attrs : Attributes} {children : List Node} {c : Node} :
    GivesWay tag attrs children c ↔ onlyChild? tag attrs children = some c := by
  rw [onlyChild?_eq_some]
  constructor
  · intro h
    exact ⟨h.wrapper, h.silent, h.only, h.element⟩
  · rintro ⟨hwrapper, hsilent, honly, helement⟩
    exact ⟨hwrapper, hsilent, honly, helement⟩

/-- Whether a node is an element that gives way to a child once all its children are flat. -/
def IsUnwrapped : Node → Prop
  | .element tag attrs children _ => ∃ c, GivesWay tag attrs (children.map flattenNode) c
  | .text _ => False
  | .comment _ => False

theorem isUnwrapped_iff {n : Node} : IsUnwrapped n ↔ ∃ c, soleChild? (flattenedInside n) = some c := by
  cases n with
  | element tag attrs children ns =>
    rw [flattenedInside, flattenBelow_eq_map]
    exact exists_congr fun c => givesWay_iff
  | text value => simp [IsUnwrapped, flattenedInside, soleChild?]
  | comment data => simp [IsUnwrapped, flattenedInside, soleChild?]

/-- A function that flattens the children of an element before it looks at the element: the element gives
    way to its only flattened child, or stays with its flattened children. -/
structure IsFlattening (f : Node → Node) : Prop where
  text : ∀ value, f (.text value) = .text value
  comment : ∀ data, f (.comment data) = .comment data
  gone : ∀ tag attrs children ns c, GivesWay tag attrs (children.map f) c →
    f (.element tag attrs children ns) = c
  stays : ∀ tag attrs children ns, (∀ c, ¬GivesWay tag attrs (children.map f) c) →
    f (.element tag attrs children ns) = .element tag attrs (children.map f) ns

theorem isFlattening_flattenNode : IsFlattening flattenNode where
  text _ := rfl
  comment _ := rfl
  gone tag attrs children ns c h := by
    rw [givesWay_iff, ← flattenBelow_eq_map] at h
    rw [flattenNode, h, Option.getD_some]
  stays tag attrs children ns h := by
    have hnone : onlyChild? tag attrs (flattenBelow children) = none := by
      rw [Option.eq_none_iff_forall_ne_some]
      intro c hc
      rw [flattenBelow_eq_map, ← givesWay_iff] at hc
      exact h c hc
    rw [flattenNode, hnone, Option.getD_none, flattenBelow_eq_map]

mutual

theorem IsFlattening.eq_flattenNode {f : Node → Node} (hf : IsFlattening f) : ∀ n : Node,
    f n = flattenNode n
  | .element tag attrs children ns => by
    have hbelow := hf.map_eq_map children
    by_cases hgone : ∃ c, GivesWay tag attrs (children.map f) c
    · obtain ⟨c, hc⟩ := hgone
      rw [hf.gone tag attrs children ns c hc]
      rw [hbelow] at hc
      rw [isFlattening_flattenNode.gone tag attrs children ns c hc]
    · rw [not_exists] at hgone
      rw [hf.stays tag attrs children ns hgone]
      rw [hbelow] at hgone ⊢
      rw [isFlattening_flattenNode.stays tag attrs children ns hgone]
  | .text value => hf.text value
  | .comment data => hf.comment data

theorem IsFlattening.map_eq_map {f : Node → Node} (hf : IsFlattening f) : ∀ ns : List Node,
    ns.map f = ns.map flattenNode
  | [] => rfl
  | n :: ns => by rw [List.map_cons, List.map_cons, hf.eq_flattenNode n, hf.map_eq_map ns]

end

/-- There is one such function. -/
theorem isFlattening_iff {f : Node → Node} : IsFlattening f ↔ f = flattenNode := by
  constructor
  · intro hf
    exact funext hf.eq_flattenNode
  · rintro rfl
    exact isFlattening_flattenNode

/-! ## How much is left -/

theorem size_of_soleChild {n c : Node} (h : soleChild? n = some c) : c.size < n.size := by
  cases n with
  | element tag attrs children ns =>
    obtain ⟨-, -, rfl, -⟩ := onlyChild?_eq_some.1 h
    exact Nat.lt_succ_self c.size
  | text value => cases h
  | comment data => cases h

mutual

theorem flattenNode_eq_self_or_size_lt : ∀ n : Node,
    flattenNode n = n ∨ (flattenNode n).size < n.size
  | .element tag attrs children ns => by
    have hinside : flattenedInside (.element tag attrs children ns) = .element tag attrs children ns ∨
        (flattenedInside (.element tag attrs children ns)).size < (element tag attrs children ns).size := by
      rcases flattenBelow_eq_self_or_sizeAll_lt children with heq | hlt
      · exact Or.inl (by rw [flattenedInside, heq])
      · exact Or.inr (Nat.succ_lt_succ hlt)
    rw [flattenNode_eq]
    cases hsole : soleChild? (flattenedInside (.element tag attrs children ns)) with
    | none => exact hinside
    | some c =>
      have hc := size_of_soleChild hsole
      refine Or.inr ?_
      rcases hinside with heq | hlt
      · rwa [heq] at hc
      · exact Nat.lt_trans hc hlt
  | .text value => Or.inl rfl
  | .comment data => Or.inl rfl

/-- A pass that changes anything leaves fewer nodes. -/
theorem flattenBelow_eq_self_or_sizeAll_lt : ∀ ns : List Node,
    flattenBelow ns = ns ∨ sizeAll (flattenBelow ns) < sizeAll ns
  | [] => Or.inl rfl
  | n :: ns => by
    rw [flattenBelow, sizeAll, sizeAll]
    rcases flattenNode_eq_self_or_size_lt n with hn | hn
    · rcases flattenBelow_eq_self_or_sizeAll_lt ns with hns | hns
      · exact Or.inl (by rw [hn, hns])
      · exact Or.inr (by rw [hn]; omega)
    · rcases flattenBelow_eq_self_or_sizeAll_lt ns with hns | hns
      · exact Or.inr (by rw [hns]; omega)
      · exact Or.inr (by omega)

end

theorem sizeAll_flattenBelow_le (ns : List Node) : sizeAll (flattenBelow ns) ≤ sizeAll ns :=
  sizeAll_le_of_eq_or_lt (flattenBelow_eq_self_or_sizeAll_lt ns)

end MarkupCleaner.Cleanup
