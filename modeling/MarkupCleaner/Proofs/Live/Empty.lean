import Mathlib.Data.List.Induction
import MarkupCleaner.Live.Passes
import MarkupCleaner.Proofs.Cleanup.Empty
import MarkupCleaner.Proofs.Live.Nodes

/-!
# Removing what is empty in place

The loop that goes from the last slot to the first and takes out empty nodes leaves what a recursion
from the inside out leaves.
-/

namespace MarkupCleaner.Live

open LiveNode

mutual

/-- The node with what is empty below it removed. -/
def prunedInside : LiveNode → LiveNode
  | .element link tag attrs children ns => .element link tag attrs (pruned children) ns
  | .text link value => .text link value
  | .comment link data => .comment link data

/-- Several nodes without what is empty. -/
def pruned : List LiveNode → List LiveNode
  | [] => []
  | n :: ns => if isEmpty (prunedInside n) then pruned ns else prunedInside n :: pruned ns

end

theorem prunedInside_eq (n : LiveNode) : prunedInside n = n.withChildren (pruned n.children) := by
  cases n <;> rfl

theorem pruned_append (ns ms : List LiveNode) : pruned (ns ++ ms) = pruned ns ++ pruned ms := by
  induction ns with
  | nil => rfl
  | cons n ns ih =>
    rw [List.cons_append, pruned, pruned]
    split
    · exact ih
    · rw [ih, List.cons_append]

/-! ## The plain tree -/

theorem isEmpty_eq_isHollow (n : LiveNode) : isEmpty n = Cleanup.isHollow n.plain := by
  cases n <;> rfl

mutual

theorem plain_prunedInside : ∀ n : LiveNode, (prunedInside n).plain = Cleanup.prunedInside n.plain
  | .element link tag attrs children ns => by
    rw [prunedInside, plain, plain, Cleanup.prunedInside, plainAll_pruned]
  | .text link value => rfl
  | .comment link data => rfl

theorem plainAll_pruned : ∀ ns : List LiveNode, plainAll (pruned ns) = Cleanup.prune (plainAll ns)
  | [] => rfl
  | n :: ns => by
    have hn := plain_prunedInside n
    have hns := plainAll_pruned ns
    rw [pruned, plainAll, Cleanup.prune, Cleanup.pruneNode_eq, ← hn, ← isEmpty_eq_isHollow, ← hns]
    split
    · rfl
    · rfl

end

/-! ## The loop -/

/-- One round of the loop: the last of the slots that are still to be visited. -/
theorem pruneSlots_succ {fuel : Nat} {child : LiveNode}
    (hinner : pruneSlots fuel child.children.length child.children = pruned child.children)
    (front back : List LiveNode) :
    pruneSlots (fuel + 1) (front.length + 1) (front ++ child :: back)
      = pruneSlots (fuel + 1) front.length (front ++ (pruned [child] ++ back)) := by
  have hchild : (front ++ child :: back)[front.length]? = some child := by simp
  have hset : (front ++ child :: back).set front.length (prunedInside child)
      = front ++ prunedInside child :: back := by simp
  have hremove : (remove (front ++ prunedInside child :: back) front.length).1 = front ++ back := by
    simp [remove, List.eraseIdx_append]
  rw [pruneSlots, hchild]
  simp only [hinner, ← prunedInside_eq, hset, hremove, pruned]
  split <;> rfl

/-- The loop over the slots at the front leaves them pruned and does not touch the others. -/
theorem pruneSlots_eq {fuel : Nat} (front : List LiveNode) (hfuel : sizeAll front < fuel)
    (back : List LiveNode) :
    pruneSlots fuel front.length (front ++ back) = pruned front ++ back := by
  induction fuel generalizing front back with
  | zero => exact absurd hfuel (Nat.not_lt_zero _)
  | succ fuel ihFuel =>
    induction front using List.reverseRecOn generalizing back with
    | nil =>
      rw [List.length_nil, pruneSlots]
      rfl
    | append_singleton front child ihFront =>
      have hsize : sizeAll [child] = child.size := rfl
      have hchildren := sizeAll_children_lt child
      rw [sizeAll_append] at hfuel
      have hinner : pruneSlots fuel child.children.length child.children = pruned child.children := by
        have hall := ihFuel child.children (by omega) []
        rwa [List.append_nil, List.append_nil] at hall
      rw [List.length_append, List.append_assoc, List.singleton_append, List.length_singleton,
        pruneSlots_succ hinner, ihFront (by omega), pruned_append, List.append_assoc]

/-- Removing what is empty in place leaves what the recursion leaves. -/
theorem removeEmpty_eq_pruned (slots : List LiveNode) : removeEmpty slots = pruned slots := by
  have hloop := pruneSlots_eq slots (Nat.lt_succ_self _) []
  rwa [List.append_nil, List.append_nil] at hloop

end MarkupCleaner.Live
