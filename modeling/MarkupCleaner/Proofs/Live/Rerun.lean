import MarkupCleaner.Proofs.Image.Late
import MarkupCleaner.Proofs.Live.Images

/-!
# Replacing images again

A second walk finds no empty box. It finds an icon if the first one has made it, by replacing a box that
was not placed; if there is none, it leaves every slot and every identity as it is.
-/

namespace MarkupCleaner.Live

open LiveNode Image

mutual

theorem imageStep_eq_self {options : ImageOptions} (holder next : NodeId) : ∀ n : LiveNode,
    (∀ k ∈ n.plain.nodes, isReplaced options k = false) →
      imageStep options holder next n = { node := n, next }
  | .element link tag attrs children ns, h => by
    rw [plain, Node.forall_nodes_element, isReplaced_element, Bool.or_eq_false_iff] at h
    obtain ⟨⟨hicon, hbox⟩, hbelow⟩ := h
    rw [imageStep, hicon, imageWalk_eq_self link.id next children hbelow]
    simp only [hbox, Bool.false_eq_true, if_false, Option.isSome_none]
  | .text link value, _ => rfl
  | .comment link data, _ => rfl

/-- A walk over slots in which there is nothing to replace. -/
theorem imageWalk_eq_self {options : ImageOptions} (holder next : NodeId) : ∀ ns : List LiveNode,
    (∀ k ∈ Node.nodesAll (plainAll ns), isReplaced options k = false) →
      imageWalk options holder next ns = { slots := ns, next }
  | [], _ => rfl
  | n :: ns, h => by
    rw [plainAll, Node.forall_nodesAll_cons] at h
    rw [imageWalk, imageStep_eq_self holder next n h.1]
    simp only [Option.isSome_none, Bool.false_eq_true, if_false]
    rw [imageWalk_eq_self holder next ns h.2]

end

section

variable {options : ImageOptions} {holder next : NodeId} {ns : List LiveNode}

theorem replaceBelow_of_imageWalk (h : (imageWalk options holder next ns).stopped = none) :
    replaceBelow options (plainAll ns) = .ok (plainAll (imageWalk options holder next ns).slots) := by
  rw [← outcome_imageWalk options holder next ns, ImageWalk.outcome, h]

/-- Without late icons another walk has nothing to do. -/
theorem imageWalk_again_eq_self (h : (imageWalk options holder next ns).stopped = none)
    (hnone : lateIcons options (plainAll ns) = []) :
    let walk := imageWalk options holder next ns
    imageWalk options holder walk.next walk.slots = walk := by
  intro walk
  have hself : ∀ k ∈ Node.nodesAll (plainAll walk.slots), isReplaced options k = false := by
    rw [← replaceBelow_eq_self_iff]
    exact (replaceBelow_eq_self_iff_of_replaced (replaceBelow_of_imageWalk h)).2 hnone
  rw [imageWalk_eq_self holder walk.next walk.slots hself]
  change ({ slots := walk.slots, next := walk.next, stopped := none } : ImageWalk) = walk
  rw [← h]

/-- What a walk that does not stop leaves to another one. -/
structure Rerun (options : ImageOptions) (before : List Node) (walk again : ImageWalk) : Prop where
  /-- No empty box is left. -/
  boxes : ∀ n ∈ Node.nodesAll (plainAll walk.slots), isEmptyBox options n = false
  /-- The icons that are left are the late ones, each with what has been replaced in it. -/
  icons : List.Forall₂ (fun o n => replaceNode options o.node = .ok n) (lateIcons options before)
    ((Node.nodesAll (plainAll walk.slots)).filter (detects options))
  /-- So none is left if there is no late one. -/
  clear : (∀ n ∈ Node.nodesAll (plainAll walk.slots), detects options n = false) ↔
    lateIcons options before = []
  /-- The other walk comes to the same tree exactly then. -/
  outcome : again.outcome = walk.outcome ↔ lateIcons options before = []
  /-- It leaves the slots and the identities as they are. -/
  unchanged : again = walk ↔ lateIcons options before = []
  /-- There is no late icon where icons are not replaced. -/
  disabled : options.icons = false → again = walk

/-- A walk over any slots that does not stop, and another one over what it has left in them. -/
theorem rerun_imageWalk (h : (imageWalk options holder next ns).stopped = none) :
    let walk := imageWalk options holder next ns
    Rerun options (plainAll ns) walk (imageWalk options holder walk.next walk.slots) := by
  intro walk
  have hplain : replaceBelow options (plainAll ns) = .ok (plainAll walk.slots) :=
    replaceBelow_of_imageWalk h
  have houtcome : (imageWalk options holder walk.next walk.slots).outcome = walk.outcome ↔
      lateIcons options (plainAll ns) = [] := by
    rw [outcome_imageWalk, outcome_imageWalk, hplain]
    exact replaceBelow_eq_self_iff_of_replaced hplain
  constructor
  case boxes => exact not_isEmptyBox_of_mem_replaceBelow hplain
  case icons => exact forall₂_lateIcons hplain
  case clear => exact forall_not_detects_iff hplain
  case outcome => exact houtcome
  case unchanged =>
    constructor
    · intro heq
      exact houtcome.1 (congrArg ImageWalk.outcome heq)
    · exact imageWalk_again_eq_self h
  case disabled =>
    intro hdisabled
    exact imageWalk_again_eq_self h (lateIcons_of_disabled hdisabled _)

end

/-- An icon beside an empty box: both are replaced, and another walk changes nothing. -/
theorem rerun_imageWalk_icon :
    let placed : Node := .element "div" [⟨"class", "absolute bg-a w-1 h-1 left-0 top-0"⟩] [] none
    let attrs : Attributes := [⟨"data-crypto", "x"⟩, ⟨"class", "relative w-4 h-4"⟩]
    let d := LiveDocument.ofPlain [.element "p" [] [.element "div" attrs [placed, placed] none,
      .element "div" [⟨"role", "img"⟩] [] none] none]
    let walk := imageWalk {} d.id d.next d.children
    let again := imageWalk {} d.id walk.next walk.slots
    walk.stopped = none ∧ again = walk ∧ Rerun {} (plainAll d.children) walk again := by
  intro placed attrs d walk again
  have hstopped : walk.stopped = none := by decide +kernel
  have hrerun : Rerun {} (plainAll d.children) walk again := rerun_imageWalk hstopped
  have hsame : again.outcome = walk.outcome := by decide +kernel
  exact ⟨hstopped, hrerun.unchanged.2 (hrerun.outcome.1 hsame), hrerun⟩

/-- A marked `div` with two placed boxes and a third one that is none: it is an icon only when this one has
    become an image. -/
theorem outcome_imageWalk_again_ne :
    let placed : Node := .element "div" [⟨"class", "absolute bg-a w-1 h-1 left-0 top-0"⟩] [] none
    let attrs : Attributes := [⟨"data-crypto", "x"⟩, ⟨"class", "relative w-4 h-4"⟩]
    let d := LiveDocument.ofPlain
      [.element "div" attrs [placed, placed, .element "div" [⟨"role", "img"⟩] [] none] none]
    let walk := imageWalk {} d.id d.next d.children
    let again := imageWalk {} d.id walk.next walk.slots
    walk.outcome = .ok
        [.element "div" attrs [placed, placed, .element "img" [⟨"alt", ""⟩] [] none] none] ∧
      again.outcome = .ok [.element "img" [⟨"data-crypto", "x"⟩, ⟨"class", "w-4 h-4"⟩, ⟨"width", "16"⟩,
        ⟨"height", "16"⟩, ⟨"alt", ""⟩] [] none] ∧
      again.outcome ≠ walk.outcome ∧
      ∃ n ∈ Node.nodesAll (plainAll walk.slots), isIconNode n = true := by
  decide +kernel

end MarkupCleaner.Live
