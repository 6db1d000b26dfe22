import MarkupCleaner.Cleanup.Whitespace
import MarkupCleaner.Proofs.Cleanup.Edit
import MarkupCleaner.Proofs.Cleanup.Flatten

/-!
# The texts that each pass leaves

All texts of a tree in document order, blank ones included. The removal of empty nodes takes out exactly the
blank ones; no other pass takes out any, and below an element that keeps its white space none is changed.
-/

namespace MarkupCleaner.Cleanup

open Node Live Live.Edit

/-- The value of a text. -/
def textValue? : Node → Option String
  | .element .. => none
  | .text value => some value
  | .comment _ => none

/-- The values of all texts of a tree in document order. -/
def texts (ns : List Node) : List String := (nodesAll ns).filterMap textValue?

theorem texts_nil : texts [] = [] := rfl

theorem texts_append (ns ms : List Node) : texts (ns ++ ms) = texts ns ++ texts ms := by
  rw [texts, nodesAll_append, List.filterMap_append]
  rfl

theorem texts_element (tag : String) (attrs : Attributes) (children : List Node)
    (space : Option String) (ns : List Node) :
    texts (.element tag attrs children space :: ns) = texts children ++ texts ns := by
  rw [texts, nodesAll, nodes, List.cons_append, List.filterMap_cons_none rfl, List.filterMap_append]
  rfl

theorem texts_text (value : String) (ns : List Node) : texts (.text value :: ns) = value :: texts ns := rfl

theorem texts_comment (data : String) (ns : List Node) : texts (.comment data :: ns) = texts ns := rfl

/-! ## Edits -/

/-- An edit that leaves texts alone. -/
theorem texts_onAll {σ : Type} {e : Edit σ} (htext : ∀ s value, e.text s value = value) :
    ∀ (s : σ) (ns : List Node), texts (e.onAll s ns) = texts ns
  | _, [] => rfl
  | s, .element tag attrs children space :: ns => by
    rw [onAll, onNode, texts_element, texts_element, texts_onAll htext _ children,
      texts_onAll htext s ns]
  | s, .text value :: ns => by
    rw [onAll, onNode, texts_text, texts_text, texts_onAll htext s ns, htext]
  | s, .comment data :: ns => by
    rw [onAll, onNode, texts_comment, texts_comment, texts_onAll htext s ns]

/-- Texts below an element that keeps its white space are not normalised, however deep they are. -/
theorem texts_whitespaceEdit_kept : ∀ ns : List Node, texts (whitespaceEdit.onAll true ns) = texts ns
  | [] => rfl
  | .element tag attrs children space :: ns => by
    have hbelow : whitespaceEdit.below true tag attrs = true := rfl
    rw [onAll, onNode, texts_element, texts_element, hbelow, texts_whitespaceEdit_kept children,
      texts_whitespaceEdit_kept ns]
  | .text value :: ns => by
    rw [onAll, onNode, texts_text, texts_text, texts_whitespaceEdit_kept ns]
    rfl
  | .comment data :: ns => by
    rw [onAll, onNode, texts_comment, texts_comment, texts_whitespaceEdit_kept ns]

/-! ## The removal of empty nodes -/

theorem isBlank_of_mem_texts {ns : List Node} (h : ns.any isContent = false) :
    ∀ value ∈ texts ns, Text.isBlank value = true := by
  induction ns with
  | nil => exact List.forall_mem_nil _
  | cons n ns ih =>
    rw [List.any_cons, Bool.or_eq_false_iff] at h
    cases n with
    | element tag attrs children space => cases h.1
    | text value =>
      have hblank : Text.isBlank value = true := by
        simpa [isContent, isElement, isWritten] using h.1
      rw [texts_text]
      exact List.forall_mem_cons.2 ⟨hblank, ih h.2⟩
    | comment data => exact ih h.2

mutual

theorem texts_pruneNode : ∀ n : Node,
    texts (pruneNode n).toList = (texts [n]).filter fun value => !Text.isBlank value
  | .element tag attrs children ns => by
    have hchildren := texts_prune children
    rw [texts_element, texts_nil, List.append_nil, ← hchildren, pruneNode]
    by_cases hhollow : (isWrapper tag && !(prune children).any isContent) = true
    · rw [if_pos hhollow]
      rw [Bool.and_eq_true, Bool.not_eq_true'] at hhollow
      -- the texts that are left below are written ones, and a hollow wrapper has only blank ones
      refine (List.eq_nil_iff_forall_not_mem.2 fun value hvalue => ?_).symm
      have hblank := isBlank_of_mem_texts hhollow.2 value hvalue
      rw [hchildren, List.mem_filter, hblank] at hvalue
      cases hvalue.2
    · rw [if_neg hhollow, Option.toList_some, texts_element, texts_nil, List.append_nil]
  | .text value => by
    rw [pruneNode, texts_text, texts_nil]
    by_cases hblank : Text.isBlank value = true
    · simp [hblank, texts_nil]
    · simp [hblank, texts_text, texts_nil]
  | .comment data => rfl

/-- The texts that are not blank are left. -/
theorem texts_prune : ∀ ns : List Node,
    texts (prune ns) = (texts ns).filter fun value => !Text.isBlank value
  | [] => rfl
  | n :: ns => by
    rw [prune, texts_append, texts_pruneNode n, texts_prune ns, ← List.filter_append, ← texts_append]
    rfl

end

/-! ## The flattening of wrappers -/

mutual

theorem texts_flattenNode : ∀ n : Node, texts [flattenNode n] = texts [n]
  | .element tag attrs children ns => by
    have hchildren := texts_flattenBelow children
    rw [texts_element, texts_nil, List.append_nil, ← hchildren, flattenNode]
    cases hsole : onlyChild? tag attrs (flattenBelow children) with
    | none => rw [Option.getD_none, texts_element, texts_nil, List.append_nil]
    | some c =>
      obtain ⟨-, -, hflat, -⟩ := onlyChild?_eq_some.1 hsole
      rw [Option.getD_some, hflat]
  | .text value => rfl
  | .comment data => rfl

/-- A wrapper that gives way to an element has no text of its own. -/
theorem texts_flattenBelow : ∀ ns : List Node, texts (flattenBelow ns) = texts ns
  | [] => rfl
  | n :: ns => by
    rw [flattenBelow, ← List.singleton_append, texts_append, texts_flattenNode n,
      texts_flattenBelow ns, ← texts_append]
    rfl

end

end MarkupCleaner.Cleanup
