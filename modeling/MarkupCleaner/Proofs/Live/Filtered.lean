import MarkupCleaner.Proofs.Cleanup.Filter
import MarkupCleaner.Proofs.Live.Empty

/-!
# Removing what is empty in place is a filter

The loop that takes nodes out of their slots, from the last slot to the first, comes to the tree that the
filter from the inside out leaves. Nothing empty is left, so a second loop takes out nothing, and an element
has gone exactly if there was nothing but wrappers, comments and blank texts in it.
-/

namespace MarkupCleaner.Live

open LiveNode Cleanup

/-! ## A second time -/

theorem children_prunedInside (n : LiveNode) : (prunedInside n).children = pruned n.children := by
  cases n <;> rfl

theorem id_prunedInside (n : LiveNode) : (prunedInside n).id = n.id := by
  cases n <;> rfl

mutual

theorem prunedInside_eq_self : ∀ n : LiveNode, (∀ m ∈ n.plain.nodes, isHollow m = false) →
    prunedInside n = n
  | .element link tag attrs children ns, h => by
    obtain ⟨-, hbelow⟩ := Node.forall_nodes_element.1 h
    rw [prunedInside, pruned_eq_self children hbelow]
  | .text link value, _ => rfl
  | .comment link data, _ => rfl

/-- Nodes without anything empty among them are left as they are. -/
theorem pruned_eq_self : ∀ ns : List LiveNode, (∀ m ∈ Node.nodesAll (plainAll ns), isHollow m = false) →
    pruned ns = ns
  | [], _ => rfl
  | n :: ns, h => by
    obtain ⟨hn, hns⟩ := Node.forall_nodesAll_cons.1 h
    have hself : isEmpty n = false := by
      rw [isEmpty_eq_isHollow]
      exact hn n.plain (Node.self_mem_nodes n.plain)
    rw [pruned, prunedInside_eq_self n hn, hself, pruned_eq_self ns hns]
    rfl

end

theorem pruned_pruned (ns : List LiveNode) : pruned (pruned ns) = pruned ns := by
  apply pruned_eq_self
  rw [plainAll_pruned]
  exact not_hollow_of_mem_prune (plainAll ns)

/-! ## What goes -/

section

variable {tag : String}

theorem tag?_prunedInside (n : LiveNode) : (prunedInside n).tag? = n.tag? := by
  cases n <;> rfl

theorem isContent_of_tag? {n : LiveNode} (htag : n.tag? = some tag) : isContent n.plain = true := by
  cases n with
  | element link tag' attrs children ns => rfl
  | text link value => cases htag
  | comment link data => cases htag

mutual

theorem mem_nodesAll_pruned_singleton : ∀ c n : LiveNode, n ∈ c.nodes → n.tag? = some tag →
    isEmpty (prunedInside n) = false → prunedInside n ∈ nodesAll (pruned [c])
  | .element link tag' attrs children ns, n, hn, htag, hstays => by
    have hkept : isEmpty (prunedInside (.element link tag' attrs children ns)) = false →
        pruned [.element link tag' attrs children ns] =
          [.element link tag' attrs (pruned children) ns] := by
      intro hempty
      rw [pruned, if_neg (ne_true_of_eq_false hempty)]
      rfl
    rw [nodes, List.mem_cons] at hn
    rcases hn with rfl | hbelow
    · rw [hkept hstays]
      exact List.mem_cons_self
    · -- a wrapper around an element is not empty
      have hmem := mem_nodesAll_pruned children n hbelow htag hstays
      have hcontent := any_isContent_of_mem (plain_mem_nodesAll hmem)
        (isContent_of_tag? ((tag?_prunedInside n).trans htag))
      rw [hkept (by rw [prunedInside, isEmpty, hcontent, Bool.not_true, Bool.and_false])]
      exact List.mem_append_left _ (List.mem_cons_of_mem _ hmem)
  | .text link value, n, hn, htag, _ => by
    obtain rfl := List.mem_singleton.1 hn
    cases htag
  | .comment link data, n, hn, htag, _ => by
    obtain rfl := List.mem_singleton.1 hn
    cases htag

/-- An element that is not empty itself once what is in it has been treated stays where it is. -/
theorem mem_nodesAll_pruned : ∀ (ns : List LiveNode) (n : LiveNode), n ∈ nodesAll ns →
    n.tag? = some tag → isEmpty (prunedInside n) = false → prunedInside n ∈ nodesAll (pruned ns)
  | c :: ns, n, hn, htag, hstays => by
    rw [nodesAll, List.mem_append] at hn
    rw [← List.singleton_append, pruned_append, nodesAll_append, List.mem_append]
    rcases hn with hfirst | hrest
    · exact Or.inl (mem_nodesAll_pruned_singleton c n hfirst htag hstays)
    · exact Or.inr (mem_nodesAll_pruned ns n hrest htag hstays)

end

mutual

theorem exists_of_mem_prunedInside : ∀ n : LiveNode, isEmpty (prunedInside n) = false →
    ∀ m ∈ (prunedInside n).nodes, ∃ o ∈ n.nodes, m = prunedInside o ∧ isEmpty m = false
  | .element link tag attrs children ns, hstays, m, hm => by
    rw [prunedInside, nodes, List.mem_cons] at hm
    rw [nodes]
    rcases hm with rfl | hm
    · exact ⟨_, List.mem_cons_self, rfl, hstays⟩
    · obtain ⟨o, ho, hsame⟩ := exists_of_mem_pruned children m hm
      exact ⟨o, List.mem_cons_of_mem _ ho, hsame⟩
  | .text link value, hstays, m, hm => by
    obtain rfl := List.mem_singleton.1 hm
    exact ⟨_, List.mem_singleton.2 rfl, rfl, hstays⟩
  | .comment link data, hstays, m, hm => by
    obtain rfl := List.mem_singleton.1 hm
    exact ⟨_, List.mem_singleton.2 rfl, rfl, hstays⟩

/-- Every node that is left was there before, and what was empty in it has gone. -/
theorem exists_of_mem_pruned : ∀ ns : List LiveNode,
    ∀ m ∈ nodesAll (pruned ns), ∃ o ∈ nodesAll ns, m = prunedInside o ∧ isEmpty m = false
  | n :: ns, m, hm => by
    rw [pruned] at hm
    rw [nodesAll]
    split at hm
    · obtain ⟨o, ho, hsame⟩ := exists_of_mem_pruned ns m hm
      exact ⟨o, List.mem_append_right _ ho, hsame⟩
    · next hstays =>
      rw [nodesAll, List.mem_append] at hm
      rcases hm with hm | hm
      · obtain ⟨o, ho, hsame⟩ := exists_of_mem_prunedInside n (Bool.eq_false_iff.2 hstays) m hm
        exact ⟨o, List.mem_append_left _ ho, hsame⟩
      · obtain ⟨o, ho, hsame⟩ := exists_of_mem_pruned ns m hm
        exact ⟨o, List.mem_append_right _ ho, hsame⟩

end

/-- An element is gone once everything empty is, exactly if it is a wrapper and there is nothing but
    wrappers, comments and blank texts below it. -/
theorem isEmpty_prunedInside_iff {n : LiveNode} (htag : n.tag? = some tag) :
    isEmpty (prunedInside n) = true ↔
      isWrapper tag = true ∧ ∀ m ∈ Node.nodesAll (plainAll n.children), isFiller m = true := by
  cases n with
  | element link tag' attrs children ns =>
    obtain rfl := Option.some.inj htag
    rw [isEmpty_eq_isHollow, plain_prunedInside, isHollow_prunedInside_iff rfl]
    exact Node.forall_nodes_element
  | text link value => cases htag
  | comment link data => cases htag

theorem isEmpty_prunedInside_of_not_wrapper {n : LiveNode} (htag : n.tag? = some tag)
    (hwrapper : isWrapper tag = false) : isEmpty (prunedInside n) = false := by
  rw [← Bool.not_eq_true, isEmpty_prunedInside_iff htag, hwrapper]
  rintro ⟨hfalse, -⟩
  cases hfalse

/-- Among nodes with distinct identities an element goes exactly if there is nothing but wrappers, comments
    and blank texts in it. -/
theorem not_mem_idsAll_pruned_iff {ns : List LiveNode} (hdistinct : (idsAll ns).Nodup) {n : LiveNode}
    (hn : n ∈ nodesAll ns) (htag : n.tag? = some tag) :
    n.id ∉ idsAll (pruned ns) ↔
      isWrapper tag = true ∧ ∀ m ∈ Node.nodesAll (plainAll n.children), isFiller m = true := by
  rw [← isEmpty_prunedInside_iff htag]
  constructor
  · intro hgone
    by_contra hstays
    have hmem := mem_nodesAll_pruned ns n hn htag (Bool.eq_false_iff.2 hstays)
    apply hgone
    rw [← id_prunedInside]
    exact id_mem_idsAll hmem
  · intro hempty hmem
    rw [idsAll_eq_map_nodesAll] at hmem
    obtain ⟨m, hm, hid⟩ := List.mem_map.1 hmem
    obtain ⟨o, ho, rfl, hstays⟩ := exists_of_mem_pruned ns m hm
    rw [id_prunedInside] at hid
    obtain rfl : o = n := eq_of_id_eq hdistinct ho hn hid
    rw [hempty] at hstays
    cases hstays

end

/-! ## A whole document -/

/-- What a document comes to when everything empty is taken out of its slots: the tree that the filter
    leaves, whatever the loop is given to run for. -/
theorem removeEmpty_isFilter (t : Fragment) :
    let d := LiveDocument.ofPlain t
    let after := removeEmpty d.children
    (∀ g, IsFilter g ↔ g = pruneNode)
      ∧ (∀ fuel, sizeAll d.children < fuel → pruneSlots fuel d.children.length d.children = after)
      ∧ plainAll after = t.filterMap pruneNode
      ∧ (∀ n ∈ Node.nodesAll (plainAll after), isHollow n = false)
      ∧ removeEmpty after = after
      ∧ ∀ n ∈ nodesAll d.children, ∀ tag, n.tag? = some tag →
          (n.id ∉ idsAll after ↔
            isWrapper tag = true ∧ ∀ m ∈ Node.nodesAll (plainAll n.children), isFiller m = true) := by
  intro d after
  have hafter : after = pruned d.children := removeEmpty_eq_pruned d.children
  have hplain : plainAll after = prune t := by
    have hd : plainAll d.children = t := LiveDocument.plain_ofPlain t
    rw [hafter, plainAll_pruned, hd]
  refine ⟨fun g => isFilter_iff, ?_, ?_, ?_, ?_, ?_⟩
  · intro fuel hfuel
    have hloop := pruneSlots_eq d.children hfuel []
    rw [List.append_nil, List.append_nil] at hloop
    rw [hloop, hafter]
  · rw [hplain, prune_eq_filterMap]
  · rw [hplain]
    exact not_hollow_of_mem_prune t
  · rw [removeEmpty_eq_pruned, hafter, pruned_pruned]
  · intro n hn tag htag
    rw [hafter]
    exact not_mem_idsAll_pruned_iff (nodup_idsAll_ofPlain t) hn htag

/-- A `div` goes with the comment in the `span` in it, and another one stays for the paragraph in it. -/
theorem removeEmpty_isFilter_nested :
    let d := LiveDocument.ofPlain
      [.element "div" [] [.text " ", .element "span" [] [.comment "a"] none] none,
       .element "div" [] [.element "p" [] [.text "\n"] none, .comment "b"] none]
    let after := removeEmpty d.children
    let n : LiveNode := .element ⟨1, some 0⟩ "div" []
      [.text ⟨2, some 1⟩ " ", .element ⟨3, some 1⟩ "span" [] [.comment ⟨4, some 3⟩ "a"] none] none
    sizeAll d.children < 9 ∧ pruneSlots 9 2 d.children = after
      ∧ plainAll after = [.element "div" [] [.element "p" [] [] none, .comment "b"] none]
      ∧ (∀ m ∈ Node.nodesAll (plainAll after), isHollow m = false)
      ∧ n ∈ nodesAll d.children ∧ n.tag? = some "div" ∧ n.id ∉ idsAll after := by
  intro d after n
  obtain ⟨-, hloop, hplain, hleft, -, hgone⟩ := removeEmpty_isFilter
    [.element "div" [] [.text " ", .element "span" [] [.comment "a"] none] none,
     .element "div" [] [.element "p" [] [.text "\n"] none, .comment "b"] none]
  have hsize : sizeAll d.children < 9 := by decide +kernel
  have hn : n ∈ nodesAll d.children := List.mem_cons_self
  refine ⟨hsize, hloop 9 hsize, ?_, hleft, hn, rfl, ?_⟩
  · rw [hplain]
    decide +kernel
  · rw [hgone n hn "div" rfl]
    decide +kernel

end MarkupCleaner.Live
