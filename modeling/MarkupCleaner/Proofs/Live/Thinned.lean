import MarkupCleaner.Proofs.Live.Empty
import MarkupCleaner.Proofs.Live.Flatten

/-!
# Thinned trees

What a pass does that takes nodes out and promotes others: blank texts and comments may go, and a wrapper
may give way to what is below it. Everything else stays, in the same order and below the same nodes as
far as these are left.
-/

namespace MarkupCleaner.Live

open LiveNode

/-- The second nodes are left of the first ones. A node that stays may get another parent. -/
inductive Thinned : List LiveNode → List LiveNode → Prop
  | nil : Thinned [] []
  | element {link link' : Link} {tag : String} {attrs : Attributes} {space : Option String}
      {children children' ns ms : List LiveNode} (same : link'.id = link.id)
      (inner : Thinned children children') (later : Thinned ns ms) :
      Thinned (.element link tag attrs children space :: ns)
        (.element link' tag attrs children' space :: ms)
  | text {link link' : Link} {value : String} {ns ms : List LiveNode} (same : link'.id = link.id)
      (later : Thinned ns ms) : Thinned (.text link value :: ns) (.text link' value :: ms)
  | comment {link link' : Link} {data : String} {ns ms : List LiveNode} (same : link'.id = link.id)
      (later : Thinned ns ms) : Thinned (.comment link data :: ns) (.comment link' data :: ms)
  | blankGone {link : Link} {value : String} {ns ms : List LiveNode}
      (blank : Text.isBlank value = true) (later : Thinned ns ms) : Thinned (.text link value :: ns) ms
  | commentGone {link : Link} {data : String} {ns ms : List LiveNode} (later : Thinned ns ms) :
      Thinned (.comment link data :: ns) ms
  | unwrapped {link : Link} {tag : String} {attrs : Attributes} {space : Option String}
      {children ns ms : List LiveNode} (wrapper : Cleanup.isWrapper tag = true)
      (later : Thinned (children ++ ns) ms) : Thinned (.element link tag attrs children space :: ns) ms

namespace Thinned

variable {ns ms : List LiveNode}

theorem append {ns' ms' : List LiveNode} (h : Thinned ns ms) (h' : Thinned ns' ms') :
    Thinned (ns ++ ns') (ms ++ ms') := by
  induction h with
  | nil => exact h'
  | element same inner _ _ ih => exact .element same inner ih
  | text same _ ih => exact .text same ih
  | comment same _ ih => exact .comment same ih
  | blankGone blank _ ih => exact .blankGone blank ih
  | commentGone _ ih => exact .commentGone ih
  | unwrapped wrapper _ ih =>
    rw [List.append_assoc] at ih
    exact .unwrapped wrapper ih

/-- What is left may get another parent. -/
theorem withParent {m : LiveNode} (h : Thinned ns (m :: ms)) (parent : Option NodeId) :
    Thinned ns (m.withParent parent :: ms) := by
  generalize hall : m :: ms = all at h
  induction h with
  | nil => cases hall
  | element same inner later _ _ =>
    obtain ⟨rfl, rfl⟩ := List.cons.inj hall
    exact .element same inner later
  | text same later _ =>
    obtain ⟨rfl, rfl⟩ := List.cons.inj hall
    exact .text same later
  | comment same later _ =>
    obtain ⟨rfl, rfl⟩ := List.cons.inj hall
    exact .comment same later
  | blankGone blank _ ih => exact .blankGone blank (ih hall)
  | commentGone _ ih => exact .commentGone (ih hall)
  | unwrapped wrapper _ ih => exact .unwrapped wrapper (ih hall)

/-- If no content is left, nothing needs to be left. -/
theorem to_nil (h : Thinned ns ms) (hms : (plainAll ms).any Cleanup.isContent = false) :
    Thinned ns [] := by
  induction h with
  | nil => exact .nil
  | element same inner later _ _ => cases hms
  | text same later ih =>
    rw [plainAll, List.any_cons, Bool.or_eq_false_iff] at hms
    refine .blankGone ?_ (ih hms.2)
    simpa [Cleanup.isContent, Node.isElement, Node.isWritten, plain] using hms.1
  | comment same later ih =>
    rw [plainAll, List.any_cons, Bool.or_eq_false_iff] at hms
    exact .commentGone (ih hms.2)
  | blankGone blank _ ih => exact .blankGone blank (ih hms)
  | commentGone _ ih => exact .commentGone (ih hms)
  | unwrapped wrapper _ ih => exact .unwrapped wrapper (ih hms)

/-! ## What is kept -/

/-- Identities stay in their order, and no new one comes in. -/
theorem idsAll_sublist (h : Thinned ns ms) : (idsAll ms).Sublist (idsAll ns) := by
  induction h with
  | nil => exact List.Sublist.refl _
  | element same _ _ ihInner ihLater =>
    simp only [idsAll, ids, same, List.cons_append]
    exact (ihInner.append ihLater).cons_cons _
  | text same _ ih =>
    simp only [idsAll, ids, same, List.cons_append, List.nil_append]
    exact ih.cons_cons _
  | comment same _ ih =>
    simp only [idsAll, ids, same, List.cons_append, List.nil_append]
    exact ih.cons_cons _
  | blankGone _ _ ih => exact ih.cons _
  | commentGone _ ih => exact ih.cons _
  | unwrapped _ _ ih =>
    rw [idsAll_append] at ih
    exact ih.cons _

/-- A node that is above another one afterwards was so before. -/
theorem isAncestor (h : Thinned ns ms) {a b : NodeId} (hms : IsAncestor ms a b) :
    IsAncestor ns a b := by
  induction h with
  | nil => exact hms
  | element same inner _ ihInner ihLater =>
    rw [isAncestor_element] at hms ⊢
    rcases hms with ⟨rfl, hb⟩ | hbelow | hlater
    · exact Or.inl ⟨same.symm, inner.idsAll_sublist.subset hb⟩
    · exact Or.inr (Or.inl (ihInner hbelow))
    · exact Or.inr (Or.inr (ihLater hlater))
  | text _ _ ih => exact isAncestor_text.2 (ih (isAncestor_text.1 hms))
  | comment _ _ ih => exact isAncestor_comment.2 (ih (isAncestor_comment.1 hms))
  | blankGone _ _ ih => exact isAncestor_text.2 (ih hms)
  | commentGone _ ih => exact isAncestor_comment.2 (ih hms)
  | unwrapped _ _ ih => exact isAncestor_element.2 (Or.inr (isAncestor_append.1 (ih hms)))

/-- An identity of some nodes is that of no other node. -/
theorem resolve_id {id x : NodeId} {ids : List NodeId} {p : Prop} (hid : id ∉ ids) (hx : x ∈ ids)
    (h : x = id ∨ p) : p :=
  h.resolve_left fun heq => hid (heq ▸ hx)

/-- A leaf in front of other nodes is neither above nor below any of them. -/
theorem isAncestor_left_behind {id a b : NodeId} (hdistinct : (id :: idsAll ns).Nodup)
    (hbehind : (idsAll ns).Nodup → a ∈ idsAll ms → b ∈ idsAll ms → IsAncestor ns a b → IsAncestor ms a b)
    (ha : a = id ∨ a ∈ idsAll ms) (hb : b = id ∨ b ∈ idsAll ms) (hns : IsAncestor ns a b) :
    IsAncestor ms a b := by
  obtain ⟨hid, hrest⟩ := List.nodup_cons.1 hdistinct
  obtain ⟨hxa, hxb⟩ := hns.mem
  exact hbehind hrest (resolve_id hid hxa ha) (resolve_id hid hxb hb) hns

/-- Of two nodes that are left, the one that was above the other still is. Distinct identities tell in
    which subtree the two are. -/
theorem isAncestor_left (h : Thinned ns ms) (hdistinct : (idsAll ns).Nodup) {a b : NodeId}
    (ha : a ∈ idsAll ms) (hb : b ∈ idsAll ms) (hns : IsAncestor ns a b) : IsAncestor ms a b := by
  induction h with
  | nil => exact hns
  | @element link link' tag attrs space children children' ns ms same inner later ihInner ihLater =>
    simp only [idsAll, ids, same, List.cons_append, List.mem_cons, List.mem_append] at ha hb
    rw [idsAll, ids, List.cons_append, List.nodup_cons, List.nodup_append] at hdistinct
    obtain ⟨hlink, hchildren, hrest, hdisjoint⟩ := hdistinct
    rw [List.mem_append, not_or] at hlink
    -- where a node is afterwards, if it was below the element before
    have hinside : ∀ x ∈ idsAll children, x = link.id ∨ x ∈ idsAll children' ∨ x ∈ idsAll ms →
        x ∈ idsAll children' := by
      intro x hx hcases
      refine (resolve_id hlink.1 hx hcases).resolve_right fun hmem => ?_
      exact hdisjoint x hx x (later.idsAll_sublist.subset hmem) rfl
    have houtside : ∀ x ∈ idsAll ns, x = link.id ∨ x ∈ idsAll children' ∨ x ∈ idsAll ms →
        x ∈ idsAll ms := by
      intro x hx hcases
      refine (resolve_id hlink.2 hx hcases).resolve_left fun hmem => ?_
      exact hdisjoint x (inner.idsAll_sublist.subset hmem) x hx rfl
    rw [isAncestor_element] at hns ⊢
    rcases hns with ⟨rfl, hbelow⟩ | hbelow | hlater
    · exact Or.inl ⟨same, hinside b hbelow hb⟩
    · obtain ⟨hxa, hxb⟩ := hbelow.mem
      exact Or.inr (Or.inl (ihInner hchildren (hinside a hxa ha) (hinside b hxb hb) hbelow))
    · obtain ⟨hxa, hxb⟩ := hlater.mem
      exact Or.inr (Or.inr (ihLater hrest (houtside a hxa ha) (houtside b hxb hb) hlater))
  | text same later ih =>
    rw [isAncestor_text] at hns ⊢
    rw [idsAll, ids, same, List.singleton_append, List.mem_cons] at ha hb
    exact isAncestor_left_behind hdistinct ih ha hb hns
  | comment same later ih =>
    rw [isAncestor_comment] at hns ⊢
    rw [idsAll, ids, same, List.singleton_append, List.mem_cons] at ha hb
    exact isAncestor_left_behind hdistinct ih ha hb hns
  | blankGone _ _ ih =>
    rw [idsAll, ids, List.singleton_append, List.nodup_cons] at hdistinct
    exact ih hdistinct.2 ha hb (isAncestor_text.1 hns)
  | commentGone _ ih =>
    rw [idsAll, ids, List.singleton_append, List.nodup_cons] at hdistinct
    exact ih hdistinct.2 ha hb (isAncestor_comment.1 hns)
  | unwrapped _ later ih =>
    rw [idsAll, ids, List.cons_append, ← idsAll_append, List.nodup_cons] at hdistinct
    rcases isAncestor_element.1 hns with ⟨rfl, -⟩ | hrest
    · exact absurd (later.idsAll_sublist.subset ha) hdistinct.1
    · exact ih hdistinct.2 ha hb (isAncestor_append.2 hrest)

/-- An element that is no wrapper stays, and keeps its tag. -/
theorem exists_element (h : Thinned ns ms) {n : LiveNode} (hn : n ∈ nodesAll ns) {tag : String}
    (htag : n.tag? = some tag) (hwrapper : Cleanup.isWrapper tag = false) :
    ∃ m ∈ nodesAll ms, m.id = n.id ∧ m.tag? = some tag := by
  induction h with
  | nil => cases hn
  | @element link link' tag attrs space children children' ns ms same _ _ ihInner ihLater =>
    rw [nodesAll, nodes, List.cons_append, List.mem_cons, List.mem_append] at hn
    rw [nodesAll, nodes]
    simp only [List.cons_append, List.mem_cons, List.mem_append]
    rcases hn with rfl | hbelow | hlater
    · exact ⟨_, Or.inl rfl, same, htag⟩
    · obtain ⟨m, hm, hkept⟩ := ihInner hbelow
      exact ⟨m, Or.inr (Or.inl hm), hkept⟩
    · obtain ⟨m, hm, hkept⟩ := ihLater hlater
      exact ⟨m, Or.inr (Or.inr hm), hkept⟩
  | text _ _ ih =>
    obtain ⟨m, hm, hkept⟩ := ih (mem_nodesAll_of_leaf rfl hn htag)
    exact ⟨m, List.mem_append_right _ hm, hkept⟩
  | comment _ _ ih =>
    obtain ⟨m, hm, hkept⟩ := ih (mem_nodesAll_of_leaf rfl hn htag)
    exact ⟨m, List.mem_append_right _ hm, hkept⟩
  | blankGone _ _ ih => exact ih (mem_nodesAll_of_leaf rfl hn htag)
  | commentGone _ ih => exact ih (mem_nodesAll_of_leaf rfl hn htag)
  | unwrapped wrapper _ ih =>
    rw [nodesAll, nodes, List.cons_append, List.mem_cons, ← nodesAll_append] at hn
    rcases hn with rfl | hrest
    · obtain rfl := Option.some.inj htag
      rw [wrapper] at hwrapper
      cases hwrapper
    · exact ih hrest

end Thinned

/-! ## The passes that thin -/

mutual

theorem thinned_pruned_singleton : ∀ n : LiveNode, Thinned [n] (pruned [n])
  | .element link tag attrs children ns => by
    have ih := thinned_pruned children
    rw [pruned, pruned]
    by_cases hempty : isEmpty (prunedInside (.element link tag attrs children ns)) = true
    · have hhollow : (Cleanup.isWrapper tag && !(plainAll (pruned children)).any Cleanup.isContent)
          = true := hempty
      rw [Bool.and_eq_true, Bool.not_eq_true'] at hhollow
      rw [if_pos hempty]
      refine .unwrapped hhollow.1 ?_
      rw [List.append_nil]
      exact ih.to_nil hhollow.2
    · rw [if_neg hempty]
      exact .element rfl ih .nil
  | .text link value => by
    rw [pruned, pruned]
    by_cases hempty : isEmpty (prunedInside (.text link value)) = true
    · rw [if_pos hempty]
      exact .blankGone hempty .nil
    · rw [if_neg hempty]
      exact .text rfl .nil
  | .comment link data => .comment rfl .nil

theorem thinned_pruned : ∀ ns : List LiveNode, Thinned ns (pruned ns)
  | [] => .nil
  | n :: ns => by
    rw [← List.singleton_append, pruned_append]
    exact (thinned_pruned_singleton n).append (thinned_pruned ns)

end

mutual

theorem thinned_flattened (holder : NodeId) : ∀ n : LiveNode, Thinned [n] [flattened holder n]
  | .element link tag attrs children ns => by
    have ih := thinned_flattenedAll link.id children
    rw [flattened]
    split
    · next inner hpromoted =>
      obtain ⟨hwrapper, hflat⟩ := promoted?_eq_some hpromoted
      rw [hflat] at ih
      refine .unwrapped hwrapper ?_
      rw [List.append_nil]
      exact ih.withParent (some holder)
    · exact .element rfl ih .nil
  | .text link value => .text rfl .nil
  | .comment link data => .comment rfl .nil

theorem thinned_flattenedAll (holder : NodeId) : ∀ ns : List LiveNode,
    Thinned ns (flattenedAll holder ns)
  | [] => .nil
  | n :: ns => (thinned_flattened holder n).append (thinned_flattenedAll holder ns)

end

end MarkupCleaner.Live
