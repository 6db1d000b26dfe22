import MarkupCleaner.Proofs.Cleanup.Edit
import MarkupCleaner.Proofs.Cleanup.Empty
import MarkupCleaner.Proofs.Cleanup.Flatten
import MarkupCleaner.Proofs.Text.Collapse

/-!
# White space and the other passes

Normalising white space a second time changes nothing, and it does not matter whether it happens before
or after any of the other passes: none of them moves a text into or out of an element that keeps its
white space, and none looks at more of a text than whether it is blank.
-/

namespace MarkupCleaner.Cleanup

open Node Live Live.Edit

/-! ## The normal form of a text -/

@[simp] theorem isBlank_normalText (value : String) :
    Text.isBlank (normalText value) = Text.isBlank value := by
  unfold normalText
  split
  · next h => rw [Text.isBlank_empty, ← h, Text.isBlank_collapsed]
  · rw [Text.isBlank_collapsed]

theorem normalText_of_blank {value : String} (h : Text.isBlank value = true) :
    normalText value = "" := by
  rw [normalText, Text.isBlank_collapsed, if_pos h]

theorem normalText_of_not_blank {value : String} (h : ¬Text.isBlank value = true) :
    normalText value = Text.collapsed value := by
  rw [normalText, Text.isBlank_collapsed, if_neg h]

@[simp] theorem normalText_normalText (value : String) :
    normalText (normalText value) = normalText value := by
  by_cases h : Text.isBlank value = true
  · rw [normalText_of_blank h, normalText_of_blank Text.isBlank_empty]
  · have hcollapsed : ¬Text.isBlank (Text.collapsed value) = true := by rwa [Text.isBlank_collapsed]
    rw [normalText_of_not_blank h, normalText_of_not_blank hcollapsed, Text.collapsed_collapsed]

theorem text_whitespaceEdit (kept : Bool) (value : String) :
    whitespaceEdit.text kept value = if kept then value else normalText value := rfl

theorem settles_whitespaceEdit : whitespaceEdit.Settles where
  tag _ _ _ := rfl
  attrs _ _ _ := rfl
  text kept value := by
    rw [text_whitespaceEdit, text_whitespaceEdit]
    cases kept <;> simp
  below _ _ _ := rfl

/-- Normalising twice is normalising once. -/
theorem normalizeBelow_normalizeBelow (kept : Bool) (ns : List Node) :
    normalizeBelow kept (normalizeBelow kept ns) = normalizeBelow kept ns := by
  rw [← onAll_whitespaceEdit, ← onAll_whitespaceEdit, settles_whitespaceEdit.onAll_onAll]

theorem isBlank_whitespaceEdit (kept : Bool) (value : String) :
    Text.isBlank (whitespaceEdit.text kept value) = Text.isBlank value := by
  rw [text_whitespaceEdit]
  cases kept <;> simp

theorem keepsWhitespace_of_isWrapper {tag : String} (h : isWrapper tag = true) :
    keepsWhitespace tag = false := by
  simp only [isWrapper, Bool.or_eq_true, decide_eq_true_eq] at h
  rcases h with rfl | rfl <;> decide

@[simp] theorem isHollow_normalizeNode (kept : Bool) (n : Node) :
    isHollow (normalizeNode kept n) = isHollow n := by
  cases n with
  | element tag attrs children ns =>
    rw [normalizeNode, isHollow, ← onAll_whitespaceEdit, any_isContent_onAll isBlank_whitespaceEdit,
      isHollow]
  | text value =>
    cases kept with
    | true => rfl
    | false => rw [normalizeNode, isHollow, isHollow, if_neg Bool.false_ne_true, isBlank_normalText]
  | comment data => rfl

/-- A node that is not hollow does not become so. -/
theorem not_hollow_of_mem_normalizeBelow (kept : Bool) {ns : List Node}
    (h : ∀ n ∈ nodesAll ns, isHollow n = false) :
    ∀ n ∈ nodesAll (normalizeBelow kept ns), isHollow n = false := by
  rw [← onAll_whitespaceEdit]
  refine forall_nodesAll_onAll whitespaceEdit (fun kept n hn => ?_) kept ns h
  rw [describes_whitespaceEdit.onNode_eq, isHollow_normalizeNode, hn]

theorem onElement_of_mem_normalizeBelow {good : String → Attributes → Prop} (kept : Bool)
    {ns : List Node} (h : ∀ n ∈ nodesAll ns, OnElement good n) :
    ∀ n ∈ nodesAll (normalizeBelow kept ns), OnElement good n := by
  rw [← onAll_whitespaceEdit]
  exact onElement_onAll whitespaceEdit (fun _ _ _ hgood => hgood) kept h

theorem sizeAll_normalizeBelow (kept : Bool) (ns : List Node) :
    sizeAll (normalizeBelow kept ns) = sizeAll ns := by
  rw [← onAll_whitespaceEdit, sizeAll_onAll]

/-! ## The order of the passes -/

mutual

theorem normalizeNode_prunedInside (kept : Bool) : ∀ n : Node,
    normalizeNode kept (prunedInside n) = prunedInside (normalizeNode kept n)
  | .element tag attrs children ns => by
    rw [prunedInside, normalizeNode, normalizeNode, prunedInside, normalizeBelow_prune]
  | .text value => rfl
  | .comment data => rfl

theorem normalizeBelow_prune (kept : Bool) : ∀ ns : List Node,
    normalizeBelow kept (prune ns) = prune (normalizeBelow kept ns)
  | [] => rfl
  | n :: ns => by
    have hn := normalizeNode_prunedInside kept n
    have hns := normalizeBelow_prune kept ns
    rw [normalizeBelow, prune, prune, pruneNode_eq, pruneNode_eq, ← hn, isHollow_normalizeNode]
    by_cases hollow : isHollow (prunedInside n) = true
    · rw [if_pos hollow, if_pos hollow]
      exact hns
    · rw [if_neg hollow, if_neg hollow, Option.toList_some, Option.toList_some, List.cons_append,
        List.cons_append, normalizeBelow, ← hns]
      rfl

end

theorem onlyChild?_normalizeBelow (kept : Bool) (tag : String) (attrs : Attributes)
    (children : List Node) : onlyChild? tag attrs (normalizeBelow kept children)
      = (onlyChild? tag attrs children).map (normalizeNode kept) := by
  have hkeeps : ∀ n, (normalizeNode kept n).isElement = n.isElement := by
    intro n
    cases n <;> rfl
  rw [normalizeBelow_eq_map, onlyChild?_map hkeeps]

mutual

theorem normalizeNode_flattenNode (kept : Bool) : ∀ n : Node,
    normalizeNode kept (flattenNode n) = flattenNode (normalizeNode kept n)
  | .element tag attrs children ns => by
    have ih := normalizeBelow_flattenBelow (kept || keepsWhitespace tag) children
    rw [normalizeNode, flattenNode, flattenNode, ← ih, onlyChild?_normalizeBelow]
    cases h : onlyChild? tag attrs (flattenBelow children) with
    | none => rfl
    | some c =>
      have hkeeps := keepsWhitespace_of_isWrapper (onlyChild?_eq_some.1 h).1
      rw [hkeeps, Bool.or_false]
      rfl
  | .text value => rfl
  | .comment data => rfl

theorem normalizeBelow_flattenBelow (kept : Bool) : ∀ ns : List Node,
    normalizeBelow kept (flattenBelow ns) = flattenBelow (normalizeBelow kept ns)
  | [] => rfl
  | n :: ns => by
    rw [flattenBelow, normalizeBelow, normalizeNode_flattenNode, normalizeBelow_flattenBelow,
      normalizeBelow, flattenBelow]

end

/-! An edit that leaves texts alone and never makes an element keep its white space or lose it can be
made before or after. -/

mutual

theorem normalizeNode_onNode {σ : Type} {e : Edit σ} (htext : ∀ s value, e.text s value = value)
    (htag : ∀ s tag attrs, keepsWhitespace (e.tag s tag attrs) = keepsWhitespace tag) (kept : Bool)
    (s : σ) : ∀ n : Node,
    normalizeNode kept (e.onNode s n) = e.onNode s (normalizeNode kept n)
  | .element tag attrs children ns => by
    rw [onNode, normalizeNode, normalizeNode, onNode, htag, normalizeBelow_onAll htext htag]
  | .text value => by rw [onNode, normalizeNode, normalizeNode, onNode, htext, htext]
  | .comment data => rfl

theorem normalizeBelow_onAll {σ : Type} {e : Edit σ} (htext : ∀ s value, e.text s value = value)
    (htag : ∀ s tag attrs, keepsWhitespace (e.tag s tag attrs) = keepsWhitespace tag) (kept : Bool)
    (s : σ) : ∀ ns : List Node,
    normalizeBelow kept (e.onAll s ns) = e.onAll s (normalizeBelow kept ns)
  | [] => rfl
  | n :: ns => by
    rw [onAll, normalizeBelow, normalizeBelow, onAll, normalizeNode_onNode htext htag,
      normalizeBelow_onAll htext htag]

end

end MarkupCleaner.Cleanup
