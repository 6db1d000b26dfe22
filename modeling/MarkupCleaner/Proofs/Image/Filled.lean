import MarkupCleaner.Image.Replace
import MarkupCleaner.Proofs.Cleanup.Convergence

/-!
# Boxes without content

The detectors of background and role images look for a `div` without content. The removal of empty nodes
leaves none, and no other pass makes one: only a `div` stays or becomes a `div`, and content stays content.
So on a tree from which empty nodes were removed these two detectors find nothing.
-/

namespace MarkupCleaner.Image

open Node Cleanup Live Live.Edit

/-- A node that has content if it is a `div`. -/
def IsFilled : Node → Prop
  | .element tag _ children _ => tag = "div" → hasContent children = true
  | .text _ => True
  | .comment _ => True

instance : DecidablePred IsFilled
  | .element tag _ children _ => inferInstanceAs (Decidable (tag = "div" → hasContent children = true))
  | .text _ => .isTrue trivial
  | .comment _ => .isTrue trivial

/-- Content is the same thing to the detectors and to the removal of empty nodes. -/
theorem hasContent_eq (children : List Node) : hasContent children = children.any isContent := rfl

/-! ## The cleanup -/

theorem isFilled_of_not_hollow {n : Node} (h : isHollow n = false) : IsFilled n := by
  cases n with
  | element tag attrs children ns =>
    rintro rfl
    have hwrapper : isWrapper "div" = true := by decide
    rw [isHollow, hwrapper, Bool.true_and, Bool.not_eq_false'] at h
    exact h
  | text value => trivial
  | comment data => trivial

/-- An edit that makes no `div` and keeps blank texts blank and others not. -/
theorem isFilled_of_mem_onAll {σ : Type} {e : Edit σ}
    (htext : ∀ s value, Text.isBlank (e.text s value) = Text.isBlank value)
    (htag : ∀ s tag attrs, e.tag s tag attrs = "div" → tag = "div") (s : σ) {ns : List Node}
    (h : ∀ n ∈ nodesAll ns, IsFilled n) : ∀ n ∈ nodesAll (e.onAll s ns), IsFilled n := by
  refine forall_nodesAll_onAll e (fun s n hn => ?_) s ns h
  cases n with
  | element tag attrs children ns =>
    intro hdiv
    rw [hasContent_eq, any_isContent_onAll htext]
    exact hn (htag s tag attrs hdiv)
  | text value => trivial
  | comment data => trivial

theorem isFilled_of_mem_flattenBelow {ns : List Node} (h : ∀ n ∈ nodesAll ns, IsFilled n) :
    ∀ n ∈ nodesAll (flattenBelow ns), IsFilled n := by
  refine forall_nodesAll_flattenBelow (fun n hn _ => ?_) ns h
  cases n with
  | element tag attrs children ns =>
    intro hdiv
    rw [hasContent_eq, any_isContent_flattenBelow]
    exact hn hdiv
  | text value => trivial
  | comment data => trivial

theorem eq_div_of_semanticForm {tag : String} {attrs : Attributes}
    (h : (semanticForm tag attrs).1 = "div") : tag = "div" := by
  rcases semanticForm_fst tag attrs with heq | ⟨hdiv, -⟩
  · rwa [heq] at h
  · exact hdiv

theorem eq_div_of_nestedTag {inParagraph : Bool} {tag : String} (h : nestedTag inParagraph tag = "div") :
    tag = "div" := by
  rcases nestedTag_cases inParagraph tag with heq | ⟨-, -, heq⟩
  · rwa [heq] at h
  · rw [heq] at h
    exact absurd h (by decide)

/-- Every pass keeps a tree in which every `div` has content so. -/
theorem isFilled_of_mem_apply (p : Pass) {ns : Fragment} (h : ∀ n ∈ nodesAll ns, IsFilled n) :
    ∀ n ∈ nodesAll (p.apply ns), IsFilled n := by
  cases p with
  | normalizeWhitespace =>
    rw [Pass.apply, normalizeWhitespace, ← onAll_whitespaceEdit]
    exact isFilled_of_mem_onAll isBlank_whitespaceEdit (fun _ _ _ htag => htag) false h
  | removeEmpty => exact fun n hn => isFilled_of_not_hollow (not_hollow_of_mem_prune ns n hn)
  | semanticTags =>
    rw [Pass.apply, convertSemanticTags, ← onAll_semanticEdit]
    exact isFilled_of_mem_onAll (fun _ _ => rfl) (fun _ _ _ => eq_div_of_semanticForm) () h
  | flattenWrappers => exact isFilled_of_mem_flattenBelow h
  | duplicateAttributes =>
    rw [Pass.apply, removeDuplicateAttributes, ← onAll_duplicateEdit]
    exact isFilled_of_mem_onAll (fun _ _ => rfl) (fun _ _ _ htag => htag) () h
  | nesting =>
    rw [Pass.apply, fixNesting, ← onAll_nestingEdit]
    exact isFilled_of_mem_onAll (fun _ _ => rfl) (fun _ _ _ => eq_div_of_nestedTag) false h

/-- A cleanup that removes empty nodes leaves no `div` without content, whatever else it does. -/
theorem isFilled_of_mem_cleanup {options : CleanupOptions} (h : options.removeEmpty = true) (t : Fragment) :
    ∀ n ∈ nodesAll (cleanup options t), IsFilled n := by
  have hmem : Pass.removeEmpty ∈ enabledPasses options :=
    List.mem_filter.2 ⟨by decide, h⟩
  refine Pass.applyAll_reaches (fun ns => ∀ n ∈ nodesAll ns, IsFilled n)
    (fun q _ _ => isFilled_of_mem_apply q) hmem (fun ns n hn => ?_) t
  exact isFilled_of_not_hollow (not_hollow_of_mem_prune ns n hn)

/-! ## The detectors -/

mutual

theorem replaceNode_of_filled (options : ImageOptions) (backgrounds roles : Bool) : ∀ n : Node,
    (∀ m ∈ n.nodes, IsFilled m) →
    replaceNode { options with backgrounds, roles } n = replaceNode options n
  | .element tag attrs children ns, h => by
    obtain ⟨hself, hbelow⟩ := forall_nodes_element.1 h
    have hnone : ∀ allowed : Bool, (tag = "div" && allowed && !hasContent children) = false := by
      intro allowed
      by_cases hdiv : tag = "div"
      · rw [hself hdiv, Bool.not_true, Bool.and_false]
      · rw [decide_eq_false hdiv, Bool.false_and, Bool.false_and]
    rw [replaceNode, replaceNode, replaceBelow_of_filled options backgrounds roles children hbelow]
    simp only [hnone]
  | .text value, _ => rfl
  | .comment data, _ => rfl

/-- On a tree in which every `div` has content it does not matter whether the detectors of background and
    role images are used. -/
theorem replaceBelow_of_filled (options : ImageOptions) (backgrounds roles : Bool) : ∀ ns : List Node,
    (∀ m ∈ nodesAll ns, IsFilled m) →
    replaceBelow { options with backgrounds, roles } ns = replaceBelow options ns
  | [], _ => rfl
  | n :: ns, h => by
    obtain ⟨hn, hns⟩ := forall_nodesAll_cons.1 h
    rw [replaceBelow, replaceBelow, replaceNode_of_filled options backgrounds roles n hn,
      replaceBelow_of_filled options backgrounds roles ns hns]

end

end MarkupCleaner.Image
