import MarkupCleaner.Live.Change
import MarkupCleaner.Proofs.Live.Identities
import MarkupCleaner.Proofs.Live.Links

/-!
# Slots and what leaves them

What a change to one slot does to the links and to the identities: the slots before and behind it stay,
and a node that leaves its slot takes its identities along. A change at a path is one to the slots that
the path goes through.
-/

namespace MarkupCleaner.Live

open LiveNode

/-! ## Indices -/

/-- The indices that stand for a slot among `count` slots: from the front, or negative from the end. -/
def IsSlotIndex (count : Nat) (index : Int) : Prop := -(count : Int) ≤ index ∧ index < count

instance (count : Nat) (index : Int) : Decidable (IsSlotIndex count index) :=
  inferInstanceAs (Decidable (_ ∧ _))

/-- The slot of an index is its remainder by the number of slots. -/
theorem slot?_of_isSlotIndex {count : Nat} {index : Int} (h : IsSlotIndex count index) :
    slot? count index = some (index % count).toNat := by
  obtain ⟨hlow, hhigh⟩ := h
  by_cases hneg : index < 0
  · have hmod : index % count = index + count := by
      rw [← Int.add_emod_right]
      exact Int.emod_eq_of_lt (by omega) (by omega)
    have hrange : 0 ≤ index + count ∧ index + count < count := by omega
    rw [slot?, if_pos hneg, if_pos hrange, hmod]
  · have hmod : index % count = index := Int.emod_eq_of_lt (by omega) hhigh
    have hrange : 0 ≤ index ∧ index < count := by omega
    rw [slot?, if_neg hneg, if_pos hrange, hmod]

theorem slot?_of_not_isSlotIndex {count : Nat} {index : Int} (h : ¬IsSlotIndex count index) :
    slot? count index = none := by
  unfold IsSlotIndex at h
  by_cases hneg : index < 0
  · rw [slot?, if_pos hneg]
    exact if_neg (by omega)
  · rw [slot?, if_neg hneg]
    exact if_neg (by omega)

theorem atSlot_of_not_isSlotIndex {children : List LiveNode} {next : NodeId} {index : Int}
    {act : Nat → LiveNode → Effect} (h : ¬IsSlotIndex children.length index) :
    atSlot children next index act = { children, next, fault := some .noSuchSlot } := by
  rw [atSlot, slot?_of_not_isSlotIndex h]

theorem atSlot_of_isSlotIndex {children : List LiveNode} {next : NodeId} {index : Int}
    {act : Nat → LiveNode → Effect} {child : LiveNode} (h : IsSlotIndex children.length index)
    (hchild : children[(index % children.length).toNat]? = some child) :
    atSlot children next index act = act (index % children.length).toNat child := by
  rw [atSlot, slot?_of_isSlotIndex h]
  simp only [hchild]

theorem exists_child_of_isSlotIndex {children : List LiveNode} {index : Int}
    (h : IsSlotIndex children.length index) :
    ∃ child, children[(index % children.length).toNat]? = some child := by
  obtain ⟨hlow, hhigh⟩ := h
  have hcount : (0 : Int) < children.length := by omega
  have hnonneg := Int.emod_nonneg index (Int.ne_of_gt hcount)
  have hlt := Int.emod_lt_of_pos index hcount
  exact ⟨_, List.getElem?_eq_getElem (by omega)⟩

/-- The slots before and behind the one that holds a node. -/
theorem exists_slots {slots : List LiveNode} {place : Nat} {n : LiveNode}
    (h : slots[place]? = some n) : ∃ front back, slots = front ++ n :: back ∧ place = front.length := by
  obtain ⟨hlt, rfl⟩ := List.getElem?_eq_some_iff.1 h
  refine ⟨slots.take place, slots.drop (place + 1), ?_, ?_⟩
  · rw [List.getElem_cons_drop, List.take_append_drop]
  · rw [List.length_take_of_le (Nat.le_of_lt hlt)]

/-! ## What leaves a slot -/

theorem ids_eq_cons (n : LiveNode) : n.ids = n.id :: idsAll n.children := by
  cases n <;> rfl

theorem ids_withParent (parent : Option NodeId) (n : LiveNode) : (n.withParent parent).ids = n.ids := by
  cases n <;> rfl

theorem parent_withParent (parent : Option NodeId) (n : LiveNode) :
    (n.withParent parent).parent = parent := by
  cases n <;> rfl

theorem idsAll_between (front : List LiveNode) (n : LiveNode) (back : List LiveNode) :
    idsAll (front ++ n :: back) = idsAll front ++ (n.ids ++ idsAll back) := by
  rw [idsAll_append, idsAll]

/-- The identities of the node that has left its slot, and of all nodes below it. -/
def leftIds (left : Option LiveNode) : List NodeId := (left.map ids).getD []

/-- What a change comes to below a sound holder: the nodes are linked, and no identity is in use twice,
    neither below the holder nor in the node that has left its slot. -/
structure Effect.Keeps (holder next : NodeId) (children : List LiveNode) (effect : Effect) : Prop where
  linked : Linked holder effect.children
  grown : Grown next effect.next (idsAll children) (idsAll effect.children ++ leftIds effect.left)
  left : ∀ n, effect.left = some n → n.parent = none

section

variable {holder next : NodeId} {children : List LiveNode}

/-- No node leaves its slot. -/
theorem Effect.Keeps.of_stays {effect : Effect} (hleft : effect.left = none)
    (hlinked : Linked holder effect.children)
    (hgrown : Grown next effect.next (idsAll children) (idsAll effect.children)) :
    effect.Keeps holder next children := by
  refine ⟨hlinked, ?_, fun n hn => ?_⟩
  · rw [hleft]
    exact hgrown.perm (List.Perm.of_eq (List.append_nil _))
  · rw [hleft] at hn
    cases hn

/-- Nothing is done. -/
theorem Effect.Keeps.refl (hlinked : Linked holder children) (log : Log) (fault : Option ChangeFault) :
    Effect.Keeps holder next children { children, next, log, fault } :=
  .of_stays rfl hlinked (Grown.refl next _)

theorem remove_between (front : List LiveNode) (child : LiveNode) (back : List LiveNode) :
    remove (front ++ child :: back) front.length = (front ++ back, some (child.withParent none)) := by
  simp [remove, List.eraseIdx_append]

theorem replace_between (holder : NodeId) (front : List LiveNode) (child : LiveNode)
    (back : List LiveNode) (new : LiveNode) :
    replace holder (front ++ child :: back) front.length new =
      (front ++ new.withParent (some holder) :: back,
        if child.id = new.id then none else some (child.withParent none)) := by
  by_cases hsame : child.id = new.id
  · simp [replace, hsame, Option.filter]
  · simp [replace, hsame, Option.filter]

theorem keeps_remove {front back : List LiveNode} {child : LiveNode}
    (hlinked : Linked holder (front ++ child :: back)) :
    Effect.Keeps holder next (front ++ child :: back)
      { children := front ++ back, next, left := some (child.withParent none) } := by
  obtain ⟨hfront, -, hback⟩ := linked_between.1 hlinked
  refine ⟨linked_append.2 ⟨hfront, hback⟩, ?_, fun n hn => ?_⟩
  · refine (Grown.refl next _).perm (List.perm_iff_count.2 fun id => ?_)
    show (idsAll (front ++ back) ++ (child.withParent none).ids).count id
      = (idsAll (front ++ child :: back)).count id
    simp only [idsAll_append, idsAll, ids_withParent, List.count_append]
    omega
  · obtain rfl := Option.some.inj hn
    exact parent_withParent none child

/-- A linked node comes into the slot of another one, which leaves it. -/
theorem keeps_exchange {front back : List LiveNode} {child new : LiveNode} {next' : NodeId}
    (hlinked : Linked holder (front ++ child :: back)) (hnew : Linked new.id new.children)
    (hgrown : Grown next next' [] new.ids) :
    Effect.Keeps holder next (front ++ child :: back)
      { children := front ++ new.withParent (some holder) :: back, next := next'
        left := some (child.withParent none) } := by
  obtain ⟨hfront, -, hback⟩ := linked_between.1 hlinked
  have hslot := linked_singleton.1 (linked_withParent hnew holder)
  refine ⟨linked_between.2 ⟨hfront, hslot, hback⟩, ?_, fun n hn => ?_⟩
  · have hgrown' := (Grown.refl next (idsAll (front ++ child :: back))).append hgrown
    rw [List.append_nil] at hgrown'
    refine hgrown'.perm (List.perm_iff_count.2 fun id => ?_)
    show (idsAll (front ++ new.withParent (some holder) :: back) ++ (child.withParent none).ids).count id
      = (idsAll (front ++ child :: back) ++ new.ids).count id
    simp only [idsAll_between, ids_withParent, List.count_append]
    omega
  · obtain rfl := Option.some.inj hn
    exact parent_withParent none child

/-- A node that comes into its own slot again does not leave it. -/
theorem keeps_put_back {front back : List LiveNode} {child : LiveNode}
    (hlinked : Linked holder (front ++ child :: back)) :
    Effect.Keeps holder next (front ++ child :: back)
      { children := front ++ child.withParent (some holder) :: back, next } := by
  obtain ⟨hfront, hchild, hback⟩ := linked_between.1 hlinked
  have hslot := linked_singleton.1 (linked_withParent hchild.2 holder)
  refine .of_stays rfl (linked_between.2 ⟨hfront, hslot, hback⟩) ?_
  show Grown next next (idsAll (front ++ child :: back))
    (idsAll (front ++ child.withParent (some holder) :: back))
  rw [idsAll_between, idsAll_between, ids_withParent]
  exact Grown.refl next _

end

/-! ## Changes below a holder -/

namespace Change

/-- The index of the slot that a change exchanges or empties. -/
def slotIndex? : Change → Option Int
  | replace index _ => some index
  | replaceSame index => some index
  | remove index => some index
  | _ => none

/-- What leaves its slot when a change is made to the slot of `child`: that child, without a parent, unless
    it is put back. -/
def leaving (child : LiveNode) : Change → Option LiveNode
  | replaceSame _ => none
  | _ => some (child.withParent none)

variable {holder next : NodeId} {children : List LiveNode}

theorem onChildren_of_not_isSlotIndex {c : Change} {index : Int} (hindex : c.slotIndex? = some index)
    (h : ¬IsSlotIndex children.length index) :
    c.onChildren holder next children = { children, next, fault := some .noSuchSlot } := by
  cases c with
  | replace i child =>
    obtain rfl := Option.some.inj hindex
    exact atSlot_of_not_isSlotIndex h
  | replaceSame i =>
    obtain rfl := Option.some.inj hindex
    exact atSlot_of_not_isSlotIndex h
  | remove i =>
    obtain rfl := Option.some.inj hindex
    exact atSlot_of_not_isSlotIndex h
  | _ => cases hindex

theorem id_ofPlain (parent : Option NodeId) (next : NodeId) (n : Node) :
    (ofPlain parent next n).1.id = next := by
  cases n <;> rfl

/-- A change to the slot of a child: the child leaves it unless it is put back. -/
theorem onChildren_of_isSlotIndex {c : Change} {index : Int} {child : LiveNode}
    (hindex : c.slotIndex? = some index) (h : IsSlotIndex children.length index)
    (hchild : children[(index % children.length).toNat]? = some child)
    (hlinked : Linked holder children) (hused : ∀ id ∈ idsAll children, id < next) :
    (c.onChildren holder next children).fault = none ∧
      (c.onChildren holder next children).left = c.leaving child ∧
      (c.onChildren holder next children).Keeps holder next children := by
  obtain ⟨front, back, hslots, hplace⟩ := exists_slots hchild
  cases c with
  | replace i new =>
    obtain rfl := Option.some.inj hindex
    have hin : child.id ∈ idsAll children := by
      rw [hslots, idsAll_between, ids_eq_cons]
      simp
    have hne : child.id ≠ (ofPlain none next new).1.id := by
      rw [id_ofPlain]
      exact Nat.ne_of_lt (hused _ hin)
    rw [onChildren, atSlot_of_isSlotIndex h hchild, hplace]
    simp only [hslots, replace_between, if_neg hne]
    rw [hslots] at hlinked
    exact ⟨trivial, rfl, keeps_exchange hlinked (linked_children_ofPlain next new)
      (grown_ofPlain none next new [])⟩
  | replaceSame i =>
    obtain rfl := Option.some.inj hindex
    rw [onChildren, atSlot_of_isSlotIndex h hchild, hplace]
    simp only [hslots, replace_between, if_true]
    rw [hslots] at hlinked
    exact ⟨trivial, rfl, keeps_put_back hlinked⟩
  | remove i =>
    obtain rfl := Option.some.inj hindex
    rw [onChildren, atSlot_of_isSlotIndex h hchild, hplace]
    simp only [hslots, remove_between]
    rw [hslots] at hlinked
    exact ⟨trivial, rfl, keeps_remove hlinked⟩
  | _ => cases hindex

/-- A change that is made to no slot by its index: no node leaves its slot. -/
theorem keeps_of_slotIndex_none {c : Change} (hindex : c.slotIndex? = none)
    (hlinked : Linked holder children) : (c.onChildren holder next children).Keeps holder next children := by
  cases c with
  | pass p =>
    exact .of_stays rfl (linked_applyPass holder p hlinked)
      (Grown.of_sublist (idsAll_applyPass_sublist holder p children))
  | cleanup options =>
    exact .of_stays rfl (linked_applyPasses holder (Cleanup.enabledPasses options) hlinked)
      (Grown.of_sublist (idsAll_applyPasses_sublist holder (Cleanup.enabledPasses options) children))
  | images options =>
    exact .of_stays rfl (linked_imageWalk options holder next children hlinked)
      (grown_imageWalk options holder next children)
  | classRules rules =>
    rw [onChildren]
    generalize ClassRules.engine rules = built
    obtain ⟨engine, log⟩ := built
    cases engine with
    | error refusal => exact .refl hlinked log _
    | ok engine =>
      refine .of_stays rfl (linked_classWalk engine holder children hlinked) ?_
      show Grown next next (idsAll children) (idsAll (classWalk engine children).1)
      rw [idsAll_classWalk]
      exact Grown.refl next _
  | setAttribute name value => exact .refl hlinked [] none
  | removeAttribute name => exact .refl hlinked [] none
  | setClassTokens tokens => exact .refl hlinked [] none
  | append child =>
    have hnew := linked_withParent (linked_children_ofPlain next child) holder
    refine .of_stays rfl (linked_append.2 ⟨hlinked, hnew⟩) ?_
    show Grown next _ (idsAll children) (idsAll (children ++ [_]))
    have hgrown := (Grown.refl next (idsAll children)).append (grown_ofPlain none next child [])
    rw [List.append_nil] at hgrown
    rw [idsAll_append, idsAll, idsAll, List.append_nil, ids_withParent]
    exact hgrown
  | replace index child => cases hindex
  | replaceSame index => cases hindex
  | remove index => cases hindex

/-- Every change keeps links and identities in order below a sound holder. -/
theorem keeps_onChildren (c : Change) (hlinked : Linked holder children)
    (hused : ∀ id ∈ idsAll children, id < next) :
    (c.onChildren holder next children).Keeps holder next children := by
  cases hindex : c.slotIndex? with
  | none => exact keeps_of_slotIndex_none hindex hlinked
  | some index =>
    by_cases h : IsSlotIndex children.length index
    · obtain ⟨child, hchild⟩ := exists_child_of_isSlotIndex h
      exact (onChildren_of_isSlotIndex hindex h hchild hlinked hused).2.2
    · rw [onChildren_of_not_isSlotIndex hindex h]
      exact .refl hlinked [] _

end Change

end MarkupCleaner.Live
