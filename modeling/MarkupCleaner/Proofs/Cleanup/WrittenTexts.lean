import MarkupCleaner.Proofs.Cleanup.Nesting

/-!
# The texts of a tree

All texts that are not blank in document order. White space is normalised in those that no element
around them keeps as they are; nothing else happens to any of them.
-/

namespace MarkupCleaner.Cleanup

open Node Live Live.Edit

/-- A text that is not blank, and whether an element around it keeps its white space. -/
structure WrittenText where
  kept : Bool
  value : String
deriving DecidableEq, Repr

mutual

/-- The texts of a subtree that are not blank; `kept` tells whether an element around it keeps white
    space. -/
def writtenIn (kept : Bool) : Node → List WrittenText
  | .element tag _ children _ => writtenTexts (kept || keepsWhitespace tag) children
  | .text value => if Text.isBlank value then [] else [⟨kept, value⟩]
  | .comment _ => []

/-- The texts of several subtrees that are not blank, in document order. -/
def writtenTexts (kept : Bool) : List Node → List WrittenText
  | [] => []
  | n :: ns => writtenIn kept n ++ writtenTexts kept ns

end

/-- The text with its white space collapsed unless it is kept. -/
def WrittenText.collapsed (t : WrittenText) : WrittenText :=
  if t.kept then t else { t with value := Text.collapsed t.value }

theorem writtenTexts_append (kept : Bool) (ns ms : List Node) :
    writtenTexts kept (ns ++ ms) = writtenTexts kept ns ++ writtenTexts kept ms := by
  induction ns with
  | nil => rfl
  | cons n ns ih => rw [List.cons_append, writtenTexts, writtenTexts, ih, List.append_assoc]

mutual

theorem writtenIn_onNode {σ : Type} {e : Edit σ} (htext : ∀ s value, e.text s value = value)
    (htag : ∀ s tag attrs, keepsWhitespace (e.tag s tag attrs) = keepsWhitespace tag) (kept : Bool)
    (s : σ) : ∀ n : Node, writtenIn kept (e.onNode s n) = writtenIn kept n
  | .element tag attrs children ns => by
    rw [onNode, writtenIn, writtenIn, htag, writtenTexts_onAll htext htag]
  | .text value => by rw [onNode, htext]
  | .comment data => rfl

/-- An edit that leaves texts alone and never makes an element keep its white space or lose it. -/
theorem writtenTexts_onAll {σ : Type} {e : Edit σ} (htext : ∀ s value, e.text s value = value)
    (htag : ∀ s tag attrs, keepsWhitespace (e.tag s tag attrs) = keepsWhitespace tag) (kept : Bool)
    (s : σ) : ∀ ns : List Node, writtenTexts kept (e.onAll s ns) = writtenTexts kept ns
  | [] => rfl
  | n :: ns => by
    rw [onAll, writtenTexts, writtenTexts, writtenIn_onNode htext htag, writtenTexts_onAll htext htag]

end

mutual

theorem writtenIn_normalizeNode (kept : Bool) : ∀ n : Node,
    writtenIn kept (normalizeNode kept n) = (writtenIn kept n).map WrittenText.collapsed
  | .element tag attrs children ns => by
    rw [normalizeNode, writtenIn, writtenIn, writtenTexts_normalizeBelow]
  | .text value => by
    rw [normalizeNode, writtenIn, writtenIn]
    by_cases hblank : Text.isBlank value = true
    · cases kept <;> simp [hblank]
    · cases kept with
      | true => simp [hblank, WrittenText.collapsed]
      | false => simp [hblank, WrittenText.collapsed, normalText_of_not_blank hblank]
  | .comment data => rfl

/-- Normalising collapses the white space of every text that is not kept as it is. -/
theorem writtenTexts_normalizeBelow (kept : Bool) : ∀ ns : List Node,
    writtenTexts kept (normalizeBelow kept ns) = (writtenTexts kept ns).map WrittenText.collapsed
  | [] => rfl
  | n :: ns => by
    rw [normalizeBelow, writtenTexts, writtenTexts, writtenIn_normalizeNode,
      writtenTexts_normalizeBelow, List.map_append]

end

theorem writtenTexts_semanticBelow (kept : Bool) (ns : List Node) :
    writtenTexts kept (semanticBelow ns) = writtenTexts kept ns := by
  rw [← onAll_semanticEdit]
  exact writtenTexts_onAll (fun _ _ => rfl)
    (fun _ tag attrs => keepsWhitespace_semanticForm tag attrs) kept () ns

theorem writtenTexts_distinctBelow (kept : Bool) (ns : List Node) :
    writtenTexts kept (distinctBelow ns) = writtenTexts kept ns := by
  rw [← onAll_duplicateEdit]
  exact writtenTexts_onAll (fun _ _ => rfl) (fun _ _ _ => rfl) kept () ns

theorem writtenTexts_nestBelow (kept inParagraph : Bool) (ns : List Node) :
    writtenTexts kept (nestBelow inParagraph ns) = writtenTexts kept ns := by
  rw [← onAll_nestingEdit]
  exact writtenTexts_onAll (fun _ _ => rfl)
    (fun inParagraph tag _ => keepsWhitespace_nestedTag inParagraph tag) kept inParagraph ns

end MarkupCleaner.Cleanup
