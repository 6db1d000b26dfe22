import MarkupCleaner.Proofs.Cleanup.Idempotence
import MarkupCleaner.Proofs.Tree.Occurrences

/-!
# The normal form of a cleaned-up tree

What one full cleanup leaves at every place of a tree whose elements have no attribute twice: no blank
text, no `div` that names a semantic element, no block right below a paragraph, and no wrapper that is
empty or could give way to its only child. The last pass is the only one that makes wrappers, right below
paragraphs, so such a wrapper can be left there as a `span`, and nowhere else.
-/

namespace MarkupCleaner

open Node Cleanup

namespace Cleanup

/-- A node in normal form where it stands. -/
structure IsNormal (o : Occurrence) : Prop where
  /-- A text is not blank. -/
  text : ∀ value, o.node = .text value → Text.isBlank value = false
  /-- Neither the role nor a class token of a `div` names an element. -/
  semantic : ∀ attrs children ns, o.node = .element "div" attrs children ns →
    (attrs.get? "role").bind roleTag? = none ∧ ∀ token ∈ attrs.classTokens, classTag? token = none
  /-- No block stands right below a paragraph. -/
  nested : o.parentTag? = some "p" → ∀ tag, o.node.tag? = some tag → tag ∉ paragraphBlocks
  /-- A wrapper without content, or around a single element with no attribute that says anything, is a
      `span` right below a paragraph. -/
  wrapper : ∀ tag attrs children ns, o.node = .element tag attrs children ns → isWrapper tag = true →
    (children.any isContent = false ∨
      ∃ c, children = [c] ∧ c.isElement = true ∧ saysSomething attrs = false) →
    tag = "span" ∧ o.parentTag? = some "p"

/-! ## One node -/

/-- A tight wrapper has content, and it does not give way to a single element. -/
theorem IsTight.not_spare {tag : String} {attrs : Attributes} {children : List Node} {ns : Option String}
    (h : IsTight (.element tag attrs children ns)) (htag : isWrapper tag = true) :
    ¬(children.any isContent = false ∨
      ∃ c, children = [c] ∧ c.isElement = true ∧ saysSomething attrs = false) := by
  obtain ⟨hhollow, hsole⟩ := h
  rintro (hempty | ⟨c, hchildren, hc, hattrs⟩)
  · rw [isHollow, htag, hempty] at hhollow
    cases hhollow
  · rw [soleChild?, onlyChild?_eq_some.2 ⟨htag, hattrs, hchildren, hc⟩] at hsole
    cases hsole

theorem nestNode_of_nestedTag {inParagraph : Bool} {tag : String} (h : nestedTag inParagraph tag = tag)
    (attrs : Attributes) (children : List Node) (ns : Option String) :
    nestNode inParagraph (.element tag attrs children ns)
      = nestNode false (.element tag attrs children ns) := by
  rw [nestNode, nestNode, h, nestedTag_false]

/-- No block is left below a paragraph. -/
theorem nestedTag_notMem (tag : String) : nestedTag true tag ∉ paragraphBlocks := by
  have hspan : "span" ∉ paragraphBlocks := by decide
  rcases nestedTag_cases true tag with heq | ⟨-, -, heq⟩
  · intro hmem
    rw [heq] at hmem
    rw [nestedTag, List.contains_iff_mem.2 hmem, Bool.true_and, if_pos rfl] at heq
    exact hspan (heq ▸ hmem)
  · rwa [heq]

/-- Mending the nesting brings a tight node with its semantic tag into normal form where it stands. -/
theorem isNormal_nestNode {n : Node} (htight : IsTight n) (hsemantic : IsSemantic n) (around : List Node) :
    IsNormal ⟨around, nestNode (innermostTag? around = some "p") n⟩ := by
  cases n with
  | text value =>
    refine ⟨?_, nofun, fun _ => nofun, nofun⟩
    rintro _ ⟨⟩
    exact htight.1
  | comment data => exact ⟨nofun, nofun, fun _ => nofun, nofun⟩
  | element tag attrs children ns =>
    refine ⟨nofun, ?_, ?_, ?_⟩
    · intro attrs' children' ns' heq
      rw [nestNode, Node.element.injEq] at heq
      obtain ⟨htag, rfl, -⟩ := heq
      -- only a `div` stays one, and a `div` that would be retagged is gone by now
      rcases nestedTag_cases (innermostTag? around = some "p") tag with hsame | ⟨-, -, hspan⟩
      · obtain rfl : tag = "div" := hsame.symm.trans htag
        exact semanticForm_div_eq_self_iff.1 hsemantic
      · exact absurd (hspan.symm.trans htag) (by decide)
    · intro hparent tag' htag
      obtain rfl := Option.some.inj htag
      have hparagraph : innermostTag? around = some "p" := hparent
      rw [decide_eq_true hparagraph]
      exact nestedTag_notMem tag
    · intro tag' attrs' children' ns' heq hwrapper hspare
      rcases nestedTag_cases (innermostTag? around = some "p") tag with hsame | ⟨hparagraph, -, hspan⟩
      · -- with its tag the node has kept its content
        dsimp only at heq
        have hkept := htight.nestNode
        rw [← nestNode_of_nestedTag hsame, heq] at hkept
        exact absurd hspare (hkept.not_spare hwrapper)
      · rw [nestNode, Node.element.injEq] at heq
        exact ⟨heq.1.symm.trans hspan, of_decide_eq_true hparagraph⟩

/-! ## Trees -/

mutual

theorem forall_occurrences_nestNode {before : Node → Prop} {after : Occurrence → Prop}
    (hnode : ∀ around n, before n → after ⟨around, nestNode (innermostTag? around = some "p") n⟩)
    (around : List Node) : ∀ n : Node, (∀ m ∈ n.nodes, before m) →
    ∀ o ∈ occurrences around (nestNode (innermostTag? around = some "p") n), after o
  | .element tag attrs children ns, h => by
    obtain ⟨hself, hbelow⟩ := forall_nodes_element.1 h
    rw [nestNode]
    refine forall_occurrences_element.2 ⟨?_, ?_⟩
    · have hhere := hnode around _ hself
      rwa [nestNode] at hhere
    · generalize hchildren : nestBelow _ children = nested
      have ih := forall_occurrencesAll_nestBelow hnode
        (.element (nestedTag (innermostTag? around = some "p") tag) attrs nested ns :: around) children hbelow
      have hparent : ∀ around : List Node, ∀ tag nested,
          decide (innermostTag? (.element tag attrs nested ns :: around) = some "p") = decide (tag = "p") := by
        intro around tag nested
        simp [innermostTag?, tag?]
      rwa [hparent, hchildren] at ih
  | .text value, h => List.forall_mem_singleton.2 (hnode around _ (forall_nodes_text.1 h))
  | .comment data, h => List.forall_mem_singleton.2 (hnode around _ (forall_nodes_comment.1 h))

/-- What holds of every node of a tree, and what it says of the mended nodes where they stand. -/
theorem forall_occurrencesAll_nestBelow {before : Node → Prop} {after : Occurrence → Prop}
    (hnode : ∀ around n, before n → after ⟨around, nestNode (innermostTag? around = some "p") n⟩)
    (around : List Node) : ∀ ns : List Node, (∀ m ∈ nodesAll ns, before m) →
    ∀ o ∈ occurrencesAll around (nestBelow (innermostTag? around = some "p") ns), after o
  | [], _ => fun _ ho => nomatch ho
  | n :: ns, h => by
    obtain ⟨hn, hns⟩ := forall_nodesAll_cons.1 h
    rw [nestBelow]
    exact forall_occurrencesAll_cons.2 ⟨forall_occurrences_nestNode hnode around n hn,
      forall_occurrencesAll_nestBelow hnode around ns hns⟩

end

/-- Mending the nesting brings a clean tree into normal form. -/
theorem CleanBelow.isNormal_of_mem_nestBelow {ns : List Node} (h : CleanBelow ns) :
    ∀ o ∈ occurrencesAll [] (Cleanup.nestBelow false ns), IsNormal o := by
  have hnode : ∀ (around : List Node) (n : Node), IsTight n ∧ IsSemantic n →
      IsNormal ⟨around, nestNode (innermostTag? around = some "p") n⟩ := by
    intro around n hn
    exact isNormal_nestNode hn.1 hn.2 around
  have hclean : ∀ n ∈ nodesAll ns, IsTight n ∧ IsSemantic n := by
    intro n hn
    exact ⟨h.tight n hn, h.semantic n hn⟩
  exact forall_occurrencesAll_nestBelow hnode [] ns hclean

end Cleanup

/-- One full cleanup of a tree in which no element has an attribute twice leaves every node in normal form
    where it stands. -/
theorem isNormal_of_mem_cleanup {t : Fragment} (h : ∀ n ∈ nodesAll t, HasDistinctNames n) :
    ∀ o ∈ occurrencesAll [] (cleanup {} t), IsNormal o := by
  rw [cleanup_default]
  exact (cleanBelow_of_distinct h).isNormal_of_mem_nestBelow

/-- Blocks below a paragraph become a `span` without content and a `span` around a single element, and
    such wrappers are left nowhere else. -/
theorem isNormal_of_mem_cleanup_article :
    let t : Fragment :=
      [.element "p" [] [.element "section" [] [] none,
        .element "article" [] [.element "b" [] [.text "x"] none] none] none,
       .element "div" [⟨"role", "main"⟩] [.text " ", .element "div" [] [.element "i" [] [] none] none] none]
    let t' : Fragment :=
      [.element "p" [] [.element "span" [] [] none,
        .element "span" [] [.element "b" [] [.text "x"] none] none] none,
       .element "main" [] [.element "i" [] [] none] none]
    (∀ n ∈ nodesAll t, HasDistinctNames n) ∧ cleanup {} t = t' ∧ ∀ o ∈ occurrencesAll [] t', IsNormal o := by
  intro t t'
  have hdistinct : ∀ n ∈ nodesAll t, HasDistinctNames n := by
    simp [t, nodesAll, nodes, HasDistinctNames, OnElement, DistinctNames]
  have hclean : cleanup {} t = t' := by decide +kernel
  refine ⟨hdistinct, hclean, ?_⟩
  rw [← hclean]
  exact isNormal_of_mem_cleanup hdistinct

end MarkupCleaner
