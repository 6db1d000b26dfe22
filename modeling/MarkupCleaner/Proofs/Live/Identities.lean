import Mathlib.Data.List.Count
import MarkupCleaner.Live.Classes
import MarkupCleaner.Live.Images
import MarkupCleaner.Proofs.Live.Cleanup

/-!
# Identities that are given out

New nodes take the first free identities. What is done to live documents never uses an identity twice: an
identity occurs afterwards as often as before, and a new one at most once.
-/

namespace MarkupCleaner.Live

open LiveNode

/-- How often an identity from `next` up to `next'` is given out: once if it is one of them. -/
def newCount (next next' id : Nat) : Nat := if next ≤ id ∧ id < next' then 1 else 0

theorem newCount_add {next next' next'' : Nat} (h : next ≤ next') (h' : next' ≤ next'') (id : Nat) :
    newCount next next' id + newCount next' next'' id = newCount next next'' id := by
  unfold newCount
  split <;> split <;> split <;> omega

/-- Identities after a change that has given out those from `next` up to `next'`: each occurs at most as
    often as before, and once more if it is new. -/
structure Grown (next next' : NodeId) (before after : List NodeId) : Prop where
  le : next ≤ next'
  count : ∀ id, after.count id ≤ before.count id + newCount next next' id

namespace Grown

variable {next next' next'' : NodeId} {before after ids ids' : List NodeId}

theorem of_sublist (h : after.Sublist before) : Grown next next before after :=
  ⟨Nat.le_refl _, fun id => Nat.le_add_right_of_le (h.count_le id)⟩

theorem refl (next : NodeId) (ids : List NodeId) : Grown next next ids ids :=
  of_sublist (List.Sublist.refl _)

theorem trans (h : Grown next next' before ids) (h' : Grown next' next'' ids after) :
    Grown next next'' before after := by
  refine ⟨Nat.le_trans h.le h'.le, fun id => ?_⟩
  rw [← newCount_add h.le h'.le, ← Nat.add_assoc]
  exact Nat.le_trans (h'.count id) (Nat.add_le_add_right (h.count id) _)

/-- Two parts of a document, the second one changed after the first. -/
theorem append (h : Grown next next' before after) (h' : Grown next' next'' ids ids') :
    Grown next next'' (before ++ ids) (after ++ ids') := by
  refine ⟨Nat.le_trans h.le h'.le, fun id => ?_⟩
  rw [← newCount_add h.le h'.le, List.count_append, List.count_append, Nat.add_add_add_comm]
  exact Nat.add_le_add (h.count id) (h'.count id)

theorem cons (h : Grown next next' before after) (id : NodeId) :
    Grown next next' (id :: before) (id :: after) :=
  (refl next [id]).append h

/-- The part of a document that is changed stands between others. -/
theorem between (h : Grown next next' before after) (front back : List NodeId) :
    Grown next next' (front ++ (before ++ back)) (front ++ (after ++ back)) :=
  (refl next front).append (h.append (refl next' back))

theorem subset (h : Grown next next' before after) (hids : ids.Sublist after) :
    Grown next next' before ids :=
  ⟨h.le, fun id => Nat.le_trans (hids.count_le id) (h.count id)⟩

theorem perm (h : Grown next next' before after) (hids : ids.Perm after) :
    Grown next next' before ids :=
  ⟨h.le, fun id => Nat.le_trans (Nat.le_of_eq (hids.count_eq id)) (h.count id)⟩

/-- New nodes in the place of whatever was there. -/
theorem fresh (next size : Nat) (before : List NodeId) :
    Grown next (next + size) before (List.range' next size) := by
  refine ⟨Nat.le_add_right _ _, fun id => ?_⟩
  rw [List.count_range_1']
  exact Nat.le_add_left _ _

theorem mem (h : Grown next next' before after) {id : NodeId} (hid : id ∈ after) :
    id ∈ before ∨ next ≤ id ∧ id < next' := by
  have hcount := h.count id
  have hpos := List.count_pos_iff.2 hid
  by_cases hnew : next ≤ id ∧ id < next'
  · exact Or.inr hnew
  · rw [newCount, if_neg hnew] at hcount
    exact Or.inl (List.count_pos_iff.1 (Nat.lt_of_lt_of_le hpos hcount))

theorem nodup (h : Grown next next' before after) (hdistinct : before.Nodup)
    (hused : ∀ id ∈ before, id < next) : after.Nodup := by
  rw [List.nodup_iff_count] at hdistinct ⊢
  intro id
  have hcount := h.count id
  by_cases hnew : next ≤ id ∧ id < next'
  · -- a new identity was not in use
    have hnone : before.count id = 0 :=
      List.count_eq_zero.2 fun hid => absurd (hused id hid) (Nat.not_lt.2 hnew.1)
    rwa [newCount, if_pos hnew, hnone] at hcount
  · rw [newCount, if_neg hnew] at hcount
    exact Nat.le_trans hcount (hdistinct id)

theorem lt (h : Grown next next' before after) (hused : ∀ id ∈ before, id < next) :
    ∀ id ∈ after, id < next' := by
  intro id hid
  rcases h.mem hid with hold | hnew
  · exact Nat.lt_of_lt_of_le (hused id hold) h.le
  · exact hnew.2

end Grown

/-! ## The passes of the cleanup -/

theorem idsAll_applyPass_sublist (holder : NodeId) (pass : Cleanup.Pass) (ns : List LiveNode) :
    (idsAll (applyPass holder pass ns)).Sublist (idsAll ns) :=
  applyPass_cases (motive := fun after => (idsAll after).Sublist (idsAll ns))
    (fun e s => (keeps_editBelow e s ns).ids) (thinned_pruned ns).idsAll_sublist
    (thinned_flattenedAll holder ns).idsAll_sublist pass

/-- The cleanup makes no node. -/
theorem idsAll_applyPasses_sublist (holder : NodeId) (passes : List Cleanup.Pass)
    (ns : List LiveNode) : (idsAll (applyPasses holder passes ns)).Sublist (idsAll ns) := by
  induction passes generalizing ns with
  | nil => exact List.Sublist.refl _
  | cons pass passes ih =>
    exact (ih (applyPass holder pass ns)).trans (idsAll_applyPass_sublist holder pass ns)

/-! ## New nodes -/

theorem grown_ofPlain (parent : Option NodeId) (next : NodeId) (n : Node) (before : List NodeId) :
    Grown next (ofPlain parent next n).2 before (ofPlain parent next n).1.ids := by
  obtain ⟨hids, hfree⟩ := ids_ofPlain parent next n
  rw [hids, hfree]
  exact Grown.fresh next n.size before

theorem grown_imageIn (holder next : NodeId) (image : Node) (before : List NodeId) :
    Grown next (imageIn holder next image).next before (imageIn holder next image).node.ids :=
  grown_ofPlain (some holder) next image before

mutual

theorem grown_imageStep (options : ImageOptions) (holder : NodeId) : ∀ (next : NodeId) (n : LiveNode),
    Grown next (imageStep options holder next n).next n.ids (imageStep options holder next n).node.ids
  | next, .element link tag attrs children ns => by
    rw [imageStep]
    split
    · split
      · exact grown_imageIn holder next _ _
      · exact Grown.refl next _
    · have hwalk := (grown_imageWalk options link.id next children).cons link.id
      simp only
      split
      · exact hwalk
      · split
        · exact hwalk.trans (grown_imageIn holder _ _ _)
        · exact hwalk
  | next, .text link value => Grown.refl next _
  | next, .comment link data => Grown.refl next _

/-- The walk over the images gives out identities for the new ones only. -/
theorem grown_imageWalk (options : ImageOptions) (holder : NodeId) : ∀ (next : NodeId)
    (ns : List LiveNode), Grown next (imageWalk options holder next ns).next (idsAll ns)
      (idsAll (imageWalk options holder next ns).slots)
  | next, [] => Grown.refl next _
  | next, n :: ns => by
    have hfirst := grown_imageStep options holder next n
    rw [imageWalk]
    split
    · exact hfirst.append (Grown.refl _ _)
    · exact hfirst.append (grown_imageWalk options holder _ ns)

end

/-! ## The class rules -/

mutual

theorem ids_classStep (engine : ClassRules.Engine) : ∀ n : LiveNode,
    (classStep engine n).1.ids = n.ids
  | .element link tag attrs children ns => by
    rw [classStep]
    split
    · rfl
    · exact congrArg (link.id :: ·) (idsAll_classWalk engine children)
  | .text link value => rfl
  | .comment link data => rfl

theorem idsAll_classWalk (engine : ClassRules.Engine) : ∀ ns : List LiveNode,
    idsAll (classWalk engine ns).1 = idsAll ns
  | [] => rfl
  | n :: ns => by
    have hfirst := ids_classStep engine n
    have hrest := idsAll_classWalk engine ns
    rw [classWalk, idsAll, ← hfirst]
    generalize classStep engine n = step
    obtain ⟨n, stopped⟩ := step
    cases stopped with
    | some fault => rfl
    | none => exact congrArg (n.ids ++ ·) hrest

end

end MarkupCleaner.Live
