import MarkupCleaner.Live.Images
import MarkupCleaner.Proofs.Image.Filled

/-!
# The replacement of images on live documents

The walk over a live document changes the slots it goes through, and looks for content only after what is
below a box has been replaced. It comes to the same tree, or stops for the same reason, as the replacement
on plain trees: an image in the place of an element is content as the element was.
-/

namespace MarkupCleaner.Live

open LiveNode Image Cleanup

/-- What a step comes to on plain trees. -/
def ImageStep.outcome (s : ImageStep) : Except Number.DigitLimit Node :=
  match s.stopped with
  | some limit => .error limit
  | none => .ok s.node.plain

/-- What a walk comes to on plain trees. -/
def ImageWalk.outcome (w : ImageWalk) : Except Number.DigitLimit (List Node) :=
  match w.stopped with
  | some limit => .error limit
  | none => .ok (plainAll w.slots)

/-! ## Content -/

theorem isElement_of_iconImage {attrs : Attributes} {ns : Option String} {image : Node}
    (h : iconImage attrs ns = .ok image) : image.isElement = true := by
  unfold iconImage at h
  cases hattrs : iconAttributes attrs with
  | ok attributes =>
    rw [hattrs] at h
    obtain rfl := Except.ok.inj h
    rfl
  | error limit =>
    rw [hattrs] at h
    cases h

theorem plain_imageIn (holder next : NodeId) (image : Node) :
    (imageIn holder next image).node.plain = image :=
  plain_ofPlain (some holder) next image

/-- An element stays one, and nothing else changes. -/
theorem isContent_imageStep (options : ImageOptions) (holder next : NodeId) (n : LiveNode) :
    isContent (imageStep options holder next n).node.plain = isContent n.plain := by
  cases n with
  | element link tag attrs children ns =>
    have helement : (imageStep options holder next (.element link tag attrs children ns)).node.plain.isElement
        = true := by
      rw [imageStep]
      split
      · split
        · next image himage =>
          rw [plain_imageIn]
          exact isElement_of_iconImage himage
        · rfl
      · simp only
        split
        · rfl
        · split
          · rw [plain_imageIn]
            rfl
          · rfl
    rw [isContent, helement, Bool.true_or]
    rfl
  | text link value => rfl
  | comment link data => rfl

theorem hasContent_imageWalk (options : ImageOptions) (holder next : NodeId) (ns : List LiveNode) :
    hasContent (plainAll (imageWalk options holder next ns).slots) = hasContent (plainAll ns) := by
  induction ns generalizing next with
  | nil => rfl
  | cons n ns ih =>
    have hfirst := isContent_imageStep options holder next n
    rw [imageWalk]
    split
    · rw [plainAll, plainAll, hasContent_eq, hasContent_eq, List.any_cons, List.any_cons, hfirst]
    · simp only [plainAll, hasContent_eq, List.any_cons] at ih ⊢
      rw [hfirst, ih]

/-! ## The walk -/

mutual

theorem outcome_imageStep (options : ImageOptions) (holder next : NodeId) : ∀ n : LiveNode,
    (imageStep options holder next n).outcome = replaceNode options n.plain
  | .element link tag attrs children ns => by
    rw [plain, replaceNode, imageStep]
    split
    · cases iconImage attrs ns with
      | ok image => exact congrArg Except.ok (plain_imageIn holder next image)
      | error limit => rfl
    · rw [← outcome_imageWalk options link.id next children,
        ← hasContent_imageWalk options link.id next children]
      cases hstop : (imageWalk options link.id next children).stopped with
      | some limit => simp [ImageStep.outcome, ImageWalk.outcome, hstop, bind, Except.bind]
      | none =>
        simp only [Option.isSome_none, Bool.false_eq_true, if_false, ImageWalk.outcome, hstop]
        split
        · exact congrArg Except.ok (plain_imageIn holder _ _)
        · rfl
  | .text link value => rfl
  | .comment link data => rfl

/-- The walk over a live document comes to what the replacement on plain trees comes to. -/
theorem outcome_imageWalk (options : ImageOptions) (holder next : NodeId) : ∀ ns : List LiveNode,
    (imageWalk options holder next ns).outcome = replaceBelow options (plainAll ns)
  | [] => rfl
  | n :: ns => by
    rw [plainAll, replaceBelow, ← outcome_imageStep options holder next n, imageWalk]
    cases hstop : (imageStep options holder next n).stopped with
    | some limit => simp [ImageWalk.outcome, ImageStep.outcome, hstop, bind, Except.bind]
    | none =>
      rw [← outcome_imageWalk options holder (imageStep options holder next n).next ns]
      cases hrest : (imageWalk options holder (imageStep options holder next n).next ns).stopped with
      | some limit => simp [ImageWalk.outcome, ImageStep.outcome, hstop, hrest, bind, Except.bind]
      | none =>
        simp [ImageWalk.outcome, ImageStep.outcome, hstop, hrest, bind, Except.bind, plainAll, pure,
          Except.pure]

end

end MarkupCleaner.Live
