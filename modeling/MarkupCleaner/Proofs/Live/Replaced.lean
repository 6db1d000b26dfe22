import MarkupCleaner.Proofs.Image.Recursion
import MarkupCleaner.Proofs.Live.Changes
import MarkupCleaner.Proofs.Live.Images

/-!
# What the replacement of images keeps

The walk that replaces images in place decides on each node as it was found, whatever has been replaced
below it or before it. It puts new images into the slots of icons and empty boxes and leaves everything
else where it was, so that what has content is lost inside icons only.
-/

namespace MarkupCleaner.Live

open LiveNode Image Cleanup

/-- What a slot holds after the walk: the node that it held, or a new image instead of an icon or a box. -/
inductive Becomes (options : ImageOptions) (next : NodeId) (n m : LiveNode) : Prop where
  | kept (h : isReplaced options n.plain = false) (hid : m.id = n.id)
  | replaced (h : isReplaced options n.plain = true) (hnew : next ≤ m.id)
      (himage : replaceNode options n.plain = .ok m.plain)

/-- A node that is the same as before but for what is in its slots. -/
structure Survives (options : ImageOptions) (next : NodeId) (n m : LiveNode) : Prop where
  same : m = n.withChildren m.children
  slots : List.Forall₂ (Becomes options next) n.children m.children

section

variable {options : ImageOptions} {holder first next : NodeId} {link : Link} {tag : String}
  {attrs : Attributes} {children : List LiveNode} {ns : Option String} {n m : LiveNode}
  {slots : List LiveNode}

/-! ## A step and the walk -/

/-- A step that does not stop puts a new image into the slot of what is replaced, and goes through the slots
    of any other element. -/
theorem imageStep_element
    (h : (imageStep options holder next (.element link tag attrs children ns)).stopped = none) :
    (isReplaced options (LiveNode.element link tag attrs children ns).plain = true ∧ ∃ next' image,
        next ≤ next' ∧ (imageStep options holder next (.element link tag attrs children ns)).node
          = (imageIn holder next' image).node) ∨
      (isReplaced options (LiveNode.element link tag attrs children ns).plain = false
        ∧ (imageWalk options link.id next children).stopped = none
        ∧ (imageStep options holder next (.element link tag attrs children ns)).node
          = .element link tag attrs (imageWalk options link.id next children).slots ns) := by
  rw [plain, isReplaced_element, ← hasContent_imageWalk options link.id next children]
  generalize hstep : imageStep options holder next (.element link tag attrs children ns) = step at h ⊢
  rw [imageStep] at hstep
  split at hstep
  · next hicon =>
    rw [hicon, Bool.true_or]
    split at hstep
    · next image himage =>
      subst hstep
      exact .inl ⟨rfl, next, image, Nat.le_refl next, rfl⟩
    · subst hstep
      cases h
  · next hicon =>
    rw [Bool.eq_false_iff.2 hicon, Bool.false_or]
    simp only at hstep
    split at hstep
    · next hstop =>
      subst hstep
      have hnone : (imageWalk options link.id next children).stopped = none := h
      rw [hnone] at hstop
      cases hstop
    · next hstop =>
      split at hstep
      · next hbox =>
        subst hstep
        exact .inl ⟨hbox, _, _, (grown_imageWalk options link.id next children).le, rfl⟩
      · next hbox =>
        subst hstep
        exact .inr ⟨Bool.eq_false_iff.2 hbox, Option.not_isSome_iff_eq_none.1 hstop, rfl⟩

/-- A walk that does not stop makes one step in each slot. -/
theorem imageWalk_cons (h : (imageWalk options holder next (n :: slots)).stopped = none) :
    (imageStep options holder next n).stopped = none ∧ next ≤ (imageStep options holder next n).next
      ∧ (imageWalk options holder (imageStep options holder next n).next slots).stopped = none
      ∧ (imageWalk options holder next (n :: slots)).slots = (imageStep options holder next n).node
          :: (imageWalk options holder (imageStep options holder next n).next slots).slots := by
  rw [imageWalk] at h ⊢
  split at h
  · next hstop =>
    simp only at h
    rw [h] at hstop
    cases hstop
  · next hstop =>
    rw [if_neg hstop]
    exact ⟨Option.not_isSome_iff_eq_none.1 hstop, (grown_imageStep options holder next n).le, h, rfl⟩

theorem replaceNode_of_imageStep (h : (imageStep options holder next n).stopped = none) :
    replaceNode options n.plain = .ok (imageStep options holder next n).node.plain := by
  rw [← outcome_imageStep options holder next n, ImageStep.outcome, h]

theorem id_imageIn (holder next : NodeId) (image : Node) : (imageIn holder next image).node.id = next := by
  cases image <;> rfl

theorem le_of_mem_imageIn {image : Node} (hm : m ∈ (imageIn holder next image).node.nodes) :
    next ≤ m.id := by
  have hid := id_mem_ids hm
  have hids := (ids_ofPlain (some holder) next image).1
  change m.id ∈ (ofPlain (some holder) next image).1.ids at hid
  rw [hids, List.mem_range'_1] at hid
  exact hid.1

theorem becomes_imageStep (hfirst : first ≤ next) (h : (imageStep options holder next n).stopped = none) :
    Becomes options first n (imageStep options holder next n).node := by
  have himage := replaceNode_of_imageStep h
  cases n with
  | element link tag attrs children ns =>
    rcases imageStep_element h with ⟨hreplaced, next', image, hnext, hnode⟩ | ⟨hkept, -, hnode⟩
    · refine .replaced hreplaced ?_ himage
      rw [hnode, id_imageIn]
      exact Nat.le_trans hfirst hnext
    · refine .kept hkept ?_
      rw [hnode]
      rfl
  | text link value => exact .kept (isReplaced_text options value) rfl
  | comment link data => exact .kept (isReplaced_comment options data) rfl

/-- The walk goes from slot to slot, so the number and the order of the slots stay as they are. -/
theorem becomes_imageWalk (hfirst : first ≤ next)
    (h : (imageWalk options holder next slots).stopped = none) :
    List.Forall₂ (Becomes options first) slots (imageWalk options holder next slots).slots := by
  induction slots generalizing next with
  | nil => exact .nil
  | cons n slots ih =>
    obtain ⟨hstep, hnext, hwalk, hslots⟩ := imageWalk_cons h
    rw [hslots]
    exact .cons (becomes_imageStep hfirst hstep) (ih (Nat.le_trans hfirst hnext) hwalk)

end

/-! ## What is there afterwards -/

mutual

theorem survives_of_mem_imageStep {options : ImageOptions} {first : NodeId} (holder : NodeId) :
    ∀ (next : NodeId) (n : LiveNode), first ≤ next → (imageStep options holder next n).stopped = none →
      ∀ m ∈ (imageStep options holder next n).node.nodes,
        first ≤ m.id ∨ ∃ o ∈ n.nodes, Survives options first o m
  | next, .element link tag attrs children ns, hfirst, h, m, hm => by
    rcases imageStep_element h with ⟨-, next', image, hnext, hnode⟩ | ⟨-, hwalk, hnode⟩
    · rw [hnode] at hm
      exact .inl (Nat.le_trans (Nat.le_trans hfirst hnext) (le_of_mem_imageIn hm))
    · rw [hnode, nodes] at hm
      rw [nodes]
      rcases List.mem_cons.1 hm with rfl | hm
      · exact .inr ⟨_, List.mem_cons_self, rfl, becomes_imageWalk hfirst hwalk⟩
      · refine (survives_of_mem_imageWalk link.id next children hfirst hwalk m hm).imp_right ?_
        rintro ⟨o, ho, hsurvives⟩
        exact ⟨o, List.mem_cons_of_mem _ ho, hsurvives⟩
  | next, .text link value, _, _, m, hm => by
    obtain rfl := List.mem_singleton.1 hm
    exact .inr ⟨_, hm, rfl, .nil⟩
  | next, .comment link data, _, _, m, hm => by
    obtain rfl := List.mem_singleton.1 hm
    exact .inr ⟨_, hm, rfl, .nil⟩

/-- Every node after the walk is new or the same as before but for its slots. -/
theorem survives_of_mem_imageWalk {options : ImageOptions} {first : NodeId} (holder : NodeId) :
    ∀ (next : NodeId) (ns : List LiveNode), first ≤ next →
      (imageWalk options holder next ns).stopped = none →
      ∀ m ∈ nodesAll (imageWalk options holder next ns).slots,
        first ≤ m.id ∨ ∃ o ∈ nodesAll ns, Survives options first o m
  | _, [], _, _, m, hm => by cases hm
  | next, n :: ns, hfirst, h, m, hm => by
    obtain ⟨hstep, hnext, hwalk, hslots⟩ := imageWalk_cons h
    rw [hslots, nodesAll, List.mem_append] at hm
    simp only [nodesAll, List.mem_append]
    rcases hm with hm | hm
    · refine (survives_of_mem_imageStep holder next n hfirst hstep m hm).imp_right ?_
      rintro ⟨o, ho, hsurvives⟩
      exact ⟨o, .inl ho, hsurvives⟩
    · refine (survives_of_mem_imageWalk holder _ ns (Nat.le_trans hfirst hnext) hwalk m hm).imp_right ?_
      rintro ⟨o, ho, hsurvives⟩
      exact ⟨o, .inr ho, hsurvives⟩

end

/-! ## What was there before -/

/-- No icon among some nodes is above a node. -/
def IsOutside (options : ImageOptions) (all : List LiveNode) (n : LiveNode) : Prop :=
  ∀ a ∈ all, detects options a.plain = true → n.id ∉ idsAll a.children

/-- An element that has something with content in it, and is no icon above that, is not replaced. -/
theorem not_isReplaced_of_mem {options : ImageOptions} {link : Link} {tag : String} {attrs : Attributes}
    {children : List LiveNode} {ns : Option String} {o : LiveNode} (ho : o ∈ nodesAll children)
    (hcontent : isContent o.plain = true)
    (hout : IsOutside options (LiveNode.element link tag attrs children ns).nodes o) :
    isReplaced options (LiveNode.element link tag attrs children ns).plain = false := by
  rw [isReplaced, Bool.or_eq_false_iff]
  constructor
  · rw [← Bool.not_eq_true]
    intro hicon
    refine hout _ (by rw [nodes]; exact List.mem_cons_self) hicon ?_
    exact id_mem_idsAll ho
  · have hbelow : hasContent (plainAll children) = true := any_isContent_of_mem (plain_mem_nodesAll ho) hcontent
    rw [plain, isEmptyBox, hbelow, Bool.not_true, Bool.and_false]

mutual

theorem becomes_of_mem_nodes {options : ImageOptions} {first : NodeId} (holder : NodeId) :
    ∀ (next : NodeId) (n : LiveNode), first ≤ next → (imageStep options holder next n).stopped = none →
      ∀ o ∈ n.nodes, isContent o.plain = true → IsOutside options n.nodes o →
        ∃ m ∈ (imageStep options holder next n).node.nodes, Becomes options first o m
  | next, .element link tag attrs children ns, hfirst, h, o, ho, hcontent, hout => by
    rw [nodes] at ho
    rcases List.mem_cons.1 ho with rfl | ho
    · refine ⟨_, ?_, becomes_imageStep hfirst h⟩
      rw [nodes_eq_cons]
      exact List.mem_cons_self
    · have hkept := not_isReplaced_of_mem ho hcontent hout
      rcases imageStep_element h with ⟨hreplaced, -⟩ | ⟨-, hwalk, hnode⟩
      · rw [hkept] at hreplaced
        cases hreplaced
      · have hbelow : IsOutside options (nodesAll children) o := fun a ha =>
          hout a (by rw [nodes]; exact List.mem_cons_of_mem _ ha)
        obtain ⟨m, hm, hbecomes⟩ :=
          becomes_of_mem_nodesAll link.id next children hfirst hwalk o ho hcontent hbelow
        rw [hnode, nodes]
        exact ⟨m, List.mem_cons_of_mem _ hm, hbecomes⟩
  | next, .text link value, hfirst, h, o, ho, _, _ => by
    obtain rfl := List.mem_singleton.1 ho
    exact ⟨_, ho, becomes_imageStep hfirst h⟩
  | next, .comment link data, hfirst, h, o, ho, _, _ => by
    obtain rfl := List.mem_singleton.1 ho
    exact ⟨_, ho, becomes_imageStep hfirst h⟩

/-- Nothing with content is lost but what is in an icon. -/
theorem becomes_of_mem_nodesAll {options : ImageOptions} {first : NodeId} (holder : NodeId) :
    ∀ (next : NodeId) (ns : List LiveNode), first ≤ next →
      (imageWalk options holder next ns).stopped = none →
      ∀ o ∈ nodesAll ns, isContent o.plain = true → IsOutside options (nodesAll ns) o →
        ∃ m ∈ nodesAll (imageWalk options holder next ns).slots, Becomes options first o m
  | _, [], _, _, o, ho, _, _ => by cases ho
  | next, n :: ns, hfirst, h, o, ho, hcontent, hout => by
    obtain ⟨hstep, hnext, hwalk, hslots⟩ := imageWalk_cons h
    rw [nodesAll] at hout
    rw [nodesAll, List.mem_append] at ho
    rw [hslots, nodesAll]
    rcases ho with ho | ho
    · obtain ⟨m, hm, hbecomes⟩ := becomes_of_mem_nodes holder next n hfirst hstep o ho hcontent
        fun a ha => hout a (List.mem_append_left _ ha)
      exact ⟨m, List.mem_append_left _ hm, hbecomes⟩
    · obtain ⟨m, hm, hbecomes⟩ := becomes_of_mem_nodesAll holder _ ns (Nat.le_trans hfirst hnext)
        hwalk o ho hcontent fun a ha => hout a (List.mem_append_right _ ha)
      exact ⟨m, List.mem_append_right _ hm, hbecomes⟩

end

/-! ## A whole document -/

/-- What the replacement of images leaves as it was. -/
structure KeepsRest (options : ImageOptions) (next : NodeId) (before after : List LiveNode) : Prop where
  /-- The document has as many slots as before, in the same order. -/
  slots : List.Forall₂ (Becomes options next) before after
  /-- A node that is still there is the same, and so are the number and the order of its slots. -/
  survives : ∀ n ∈ nodesAll before, ∀ m ∈ nodesAll after, m.id = n.id → Survives options next n m
  /-- What has content and is in no icon is still there or is replaced itself. -/
  outside : ∀ n ∈ nodesAll before, isContent n.plain = true → IsOutside options (nodesAll before) n →
    ∃ m ∈ nodesAll after, Becomes options next n m

theorem keepsRest_imageWalk {options : ImageOptions} {d : LiveDocument} (hd : d.Sound)
    (h : (imageWalk options d.id d.next d.children).stopped = none) :
    KeepsRest options d.next d.children (imageWalk options d.id d.next d.children).slots where
  slots := becomes_imageWalk (Nat.le_refl _) h
  survives n hn m hm hid := by
    rcases survives_of_mem_imageWalk d.id d.next d.children (Nat.le_refl _) h m hm with
      hnew | ⟨o, ho, hsurvives⟩
    · have hold := hd.free n.id (List.mem_cons_of_mem _ (id_mem_idsAll hn))
      exact absurd hold (Nat.not_lt.2 (hid ▸ hnew))
    · have hsame : m.id = o.id := by
        rw [hsurvives.same]
        cases o <;> rfl
      have heq : o = n := eq_of_id_eq (List.nodup_cons.1 hd.distinct).2 ho hn (hsame.symm.trans hid)
      exact heq ▸ hsurvives
  outside := becomes_of_mem_nodesAll d.id d.next d.children (Nat.le_refl _) h

theorem ImageWalk.isSome_stopped_iff (w : ImageWalk) :
    w.stopped.isSome = true ↔ ∃ limit, w.outcome = .error limit := by
  unfold ImageWalk.outcome
  cases w.stopped with
  | none => simp
  | some limit => simp

/-- The walk comes to the one replacement that decides on each original node, child by child. It stops only
    where the size of an icon that is in no other icon cannot be read, and keeps everything else. -/
theorem imageWalk_isReplacement (options : ImageOptions) (t : Fragment) :
    let d := LiveDocument.ofPlain t
    let walk := imageWalk options d.id d.next d.children
    (∀ g, IsReplacement options g ↔ g = replaceNode options)
      ∧ walk.outcome = t.mapM (replaceNode options)
      ∧ (walk.stopped.isSome = true ↔ options.icons = true
          ∧ ∃ o ∈ Node.occurrencesAll [] t, IsOutermostIcon o ∧ HasOverlongSize o.node)
      ∧ (walk.stopped = none → KeepsRest options d.next d.children walk.slots) := by
  intro d walk
  have houtcome : walk.outcome = replaceBelow options t := by
    rw [outcome_imageWalk options d.id d.next d.children]
    exact congrArg _ (LiveDocument.plain_ofPlain t)
  refine ⟨fun g => isReplacement_iff, ?_, ?_, keepsRest_imageWalk (sound_ofPlain t)⟩
  · rw [houtcome, replaceBelow_eq_mapM]
  · rw [walk.isSome_stopped_iff, houtcome]
    exact replaceImages_eq_error_iff

/-- A box in a paragraph becomes an image with the next free identity, and the paragraph keeps its slots and
    its text. -/
theorem imageWalk_isReplacement_box :
    let d := LiveDocument.ofPlain [.element "p" [] [.text "a",
      .element "div" [⟨"role", "img"⟩, ⟨"aria-label", "b"⟩] [.comment "c"] none, .text "d"] none]
    let walk := imageWalk {} d.id d.next d.children
    walk.stopped = none ∧ idsAll walk.slots = [1, 2, 6, 5]
      ∧ walk.outcome = .ok [.element "p" [] [.text "a", .element "img" [⟨"alt", "b"⟩] [] none, .text "d"]
          none]
      ∧ KeepsRest {} d.next d.children walk.slots := by
  intro d walk
  have hstopped : walk.stopped = none := by decide +kernel
  refine ⟨hstopped, by decide +kernel, ?_, (imageWalk_isReplacement _ _).2.2.2 hstopped⟩
  rfl

end MarkupCleaner.Live
