import MarkupCleaner.Live.Passes
import MarkupCleaner.Proofs.Cleanup.Flatten
import MarkupCleaner.Proofs.Live.Nodes

/-!
# Flattening wrappers in place

The loop that visits a slot again after a child has been promoted into it leaves what a recursion from
the inside out leaves: what is promoted is flat already, and the second visit does not change it.
-/

namespace MarkupCleaner.Live

open LiveNode

mutual

/-- A node flattened, to be held by `holder`. -/
def flattened (holder : NodeId) : LiveNode → LiveNode
  | .element link tag attrs children ns =>
    match promoted? (.element link tag attrs (flattenedAll link.id children) ns) with
    | some inner => inner.withParent (some holder)
    | none => .element link tag attrs (flattenedAll link.id children) ns
  | .text link value => .text link value
  | .comment link data => .comment link data

/-- Several nodes flattened, to be held by `holder`. -/
def flattenedAll (holder : NodeId) : List LiveNode → List LiveNode
  | [] => []
  | n :: ns => flattened holder n :: flattenedAll holder ns

end

theorem promoted?_eq_some {link : Link} {tag : String} {attrs : Attributes}
    {children : List LiveNode} {space : Option String} {inner : LiveNode}
    (h : promoted? (.element link tag attrs children space) = some inner) :
    Cleanup.isWrapper tag = true ∧ children = [inner] := by
  unfold promoted? at h
  split at h
  · next heq =>
    obtain ⟨-, rfl, -, rfl, -⟩ := LiveNode.element.inj heq
    split at h
    · next hwrapper =>
      obtain rfl := Option.some.inj h
      rw [Bool.and_eq_true] at hwrapper
      exact ⟨hwrapper.1, rfl⟩
    · cases h
  · cases h

/-- The node with what is below it flattened. -/
def flattenedInside (n : LiveNode) : LiveNode := n.withChildren (flattenedAll n.id n.children)

theorem flattened_of_promoted {n inner : LiveNode} (holder : NodeId)
    (h : promoted? (flattenedInside n) = some inner) :
    flattened holder n = inner.withParent (some holder) := by
  cases n with
  | element link tag attrs children ns =>
    have h' : promoted? (.element link tag attrs (flattenedAll link.id children) ns) = some inner := h
    rw [flattened, h']
  | text link value => cases h
  | comment link data => cases h

theorem flattened_of_not_promoted {n : LiveNode} (holder : NodeId)
    (h : promoted? (flattenedInside n) = none) : flattened holder n = flattenedInside n := by
  cases n with
  | element link tag attrs children ns =>
    have h' : promoted? (.element link tag attrs (flattenedAll link.id children) ns) = none := h
    rw [flattened, h']
    rfl
  | text link value => rfl
  | comment link data => rfl

/-! ## The plain tree -/

/-- Which child is promoted can be seen from the plain tree. -/
theorem map_plain_promoted (n : LiveNode) : (promoted? n).map plain = Cleanup.soleChild? n.plain := by
  unfold promoted?
  split
  · next link tag attrs link' tag' attrs' children' ns' ns =>
    rw [plain, Cleanup.soleChild?, plainAll, plainAll, plain, Cleanup.onlyChild?]
    split <;> rfl
  · next hne =>
    cases n with
    | element link tag attrs children ns =>
      rw [plain, Cleanup.soleChild?]
      cases hsole : Cleanup.onlyChild? tag attrs (plainAll children) with
      | none => rfl
      | some c =>
        obtain ⟨-, -, hchildren, hc⟩ := Cleanup.onlyChild?_eq_some.1 hsole
        rw [plainAll_eq_map, List.map_eq_singleton_iff] at hchildren
        obtain ⟨m, rfl, rfl⟩ := hchildren
        cases m with
        | element link' tag' attrs' children' ns' =>
          exact absurd rfl (hne link tag attrs link' tag' attrs' children' ns' ns)
        | text link' value => cases hc
        | comment link' data => cases hc
    | text link value => rfl
    | comment link data => rfl

mutual

theorem plain_flattened (holder : NodeId) : ∀ n : LiveNode,
    (flattened holder n).plain = Cleanup.flattenNode n.plain
  | .element link tag attrs children ns => by
    have hinside : (flattenedInside (.element link tag attrs children ns)).plain
        = Cleanup.flattenedInside (plain (.element link tag attrs children ns)) := by
      show Node.element tag attrs (plainAll (flattenedAll link.id children)) ns
        = .element tag attrs (Cleanup.flattenBelow (plainAll children)) ns
      rw [plainAll_flattenedAll]
    have hsole := map_plain_promoted (flattenedInside (.element link tag attrs children ns))
    rw [Cleanup.flattenNode_eq, ← hinside, ← hsole]
    cases hpromoted : promoted? (flattenedInside (.element link tag attrs children ns)) with
    | none => rw [flattened_of_not_promoted holder hpromoted]; rfl
    | some inner => rw [flattened_of_promoted holder hpromoted, plain_withParent]; rfl
  | .text link value => rfl
  | .comment link data => rfl

theorem plainAll_flattenedAll (holder : NodeId) : ∀ ns : List LiveNode,
    plainAll (flattenedAll holder ns) = Cleanup.flattenBelow (plainAll ns)
  | [] => rfl
  | n :: ns => by
    rw [flattenedAll, plainAll, plain_flattened, plainAll_flattenedAll, plainAll,
      Cleanup.flattenBelow]

end

/-! ## Flat trees -/

/-- No node of a tree gives way to its only child. -/
def IsFlat (ns : List LiveNode) : Prop :=
  ∀ m ∈ Node.nodesAll (plainAll ns), Cleanup.soleChild? m = none

theorem isFlat_flattenedAll (holder : NodeId) (ns : List LiveNode) :
    IsFlat (flattenedAll holder ns) := by
  rw [IsFlat, plainAll_flattenedAll]
  exact Cleanup.soleChild?_of_mem_flattenBelow (plainAll ns)

theorem isFlat_cons {n : LiveNode} {ns : List LiveNode} : IsFlat (n :: ns) ↔
    (∀ m ∈ n.plain.nodes, Cleanup.soleChild? m = none) ∧ IsFlat ns := by
  rw [IsFlat, plainAll, Node.forall_nodesAll_cons]
  exact Iff.rfl

theorem promoted?_of_isFlat {n : LiveNode} {ns : List LiveNode} (h : IsFlat (n :: ns)) :
    promoted? n = none := by
  have hself := (isFlat_cons.1 h).1 n.plain (Node.self_mem_nodes n.plain)
  rw [← map_plain_promoted] at hself
  exact Option.map_eq_none_iff.1 hself

theorem IsFlat.children {n : LiveNode} {ns : List LiveNode} (h : IsFlat (n :: ns)) :
    IsFlat n.children := by
  cases n with
  | element link tag attrs children space =>
    exact (Node.forall_nodes_element.1 (isFlat_cons.1 h).1).2
  | text link value => exact fun m hm => nomatch hm
  | comment link data => exact fun m hm => nomatch hm

mutual

theorem flattened_eq_self (holder : NodeId) : ∀ n : LiveNode, IsFlat [n] → flattened holder n = n
  | .element link tag attrs children ns, h => by
    have hbelow := flattenedAll_eq_self link.id children h.children
    have hpromoted := promoted?_of_isFlat h
    rw [flattened, hbelow, hpromoted]
  | .text link value, _ => rfl
  | .comment link data, _ => rfl

/-- A flat tree is left as it is. -/
theorem flattenedAll_eq_self (holder : NodeId) : ∀ ns : List LiveNode, IsFlat ns →
    flattenedAll holder ns = ns
  | [], _ => rfl
  | n :: ns, h => by
    obtain ⟨hn, hns⟩ := isFlat_cons.1 h
    have hsingle : IsFlat [n] := isFlat_cons.2 ⟨hn, fun m hm => nomatch hm⟩
    rw [flattenedAll, flattened_eq_self holder n hsingle, flattenedAll_eq_self holder ns hns]

end

/-! ## The loop -/

theorem size_flattenedInside_le (n : LiveNode) : (flattenedInside n).size ≤ n.size := by
  cases n with
  | element link tag attrs children ns =>
    have hle := Cleanup.sizeAll_flattenBelow_le (plainAll children)
    rw [← plainAll_flattenedAll link.id, sizeAll_plainAll, sizeAll_plainAll] at hle
    exact Nat.succ_le_succ hle
  | text link value => exact Nat.le_refl _
  | comment link data => exact Nat.le_refl _

theorem size_of_promoted {n inner : LiveNode} (h : promoted? n = some inner) : inner.size < n.size := by
  have hsole : Cleanup.soleChild? n.plain = some inner.plain := by
    rw [← map_plain_promoted, h]
    rfl
  have hlt := Cleanup.size_of_soleChild hsole
  rwa [size_plain, size_plain] at hlt

/-- What is promoted is flat, since it was below the wrapper when that was visited. -/
theorem isFlat_of_promoted {n inner : LiveNode} (h : promoted? (flattenedInside n) = some inner) :
    IsFlat [inner] := by
  cases n with
  | element link tag attrs children ns =>
    have hsole : Cleanup.onlyChild? tag attrs (plainAll (flattenedAll link.id children))
        = some inner.plain := by
      have := map_plain_promoted (flattenedInside (.element link tag attrs children ns))
      rw [h] at this
      exact this.symm
    have hflat := isFlat_flattenedAll link.id children
    rw [IsFlat, (Cleanup.onlyChild?_eq_some.1 hsole).2.2.1] at hflat
    exact hflat
  | text link value => cases h
  | comment link data => cases h

theorem size_withParent (parent : Option NodeId) (n : LiveNode) : (n.withParent parent).size = n.size := by
  rw [← size_plain, plain_withParent, size_plain]

/-- An induction over the rounds of the loop. What the three kinds of rounds build up holds of the run that
    flattens the slots that are still to be visited and does not touch the others. The number of nodes that
    are left bounds the rounds, since a promoted child is smaller than its wrapper, and flat already. -/
theorem flattenedAll_induct {motive : Nat → NodeId → Nat → List LiveNode → List LiveNode → Prop}
    (done : ∀ {bound holder place slots}, slots[place]? = none → motive (bound + 1) holder place slots slots)
    (next : ∀ {bound holder place slots child below out}, slots[place]? = some child →
      motive bound child.id 0 child.children below → promoted? (child.withChildren below) = none →
      motive bound holder (place + 1) (slots.set place (child.withChildren below)) out →
      motive (bound + 1) holder place slots out)
    (again : ∀ {bound holder place slots child below inner out}, slots[place]? = some child →
      motive bound child.id 0 child.children below → promoted? (child.withChildren below) = some inner →
      motive bound holder place (replace holder (slots.set place (child.withChildren below)) place inner).1
        out →
      motive (bound + 1) holder place slots out)
    {bound : Nat} (holder : NodeId) (back : List LiveNode) (hbound : sizeAll back < bound)
    (front : List LiveNode) :
    motive bound holder front.length (front ++ back) (front ++ flattenedAll holder back) := by
  induction bound generalizing holder front back with
  | zero => exact absurd hbound (Nat.not_lt_zero _)
  | succ bound ih =>
    cases back with
    | nil =>
      apply done
      simp
    | cons child back =>
      have hsize := size_pos child
      have hchildren := sizeAll_children_lt child
      rw [sizeAll] at hbound
      have hchild : (front ++ child :: back)[front.length]? = some child := by simp
      have hinner : motive bound child.id 0 child.children (flattenedAll child.id child.children) :=
        ih child.id child.children (by omega) []
      have hset : (front ++ child :: back).set front.length
          (child.withChildren (flattenedAll child.id child.children))
            = front ++ flattenedInside child :: back := by simp [flattenedInside]
      cases hpromoted : promoted? (flattenedInside child) with
      | none =>
        -- the slot is done, and the loop goes on behind it
        apply next hchild hinner hpromoted
        have hnext := ih holder back (by omega) (front ++ [flattenedInside child])
        rw [List.length_append, List.append_assoc, List.append_assoc] at hnext
        rw [hset, flattenedAll, flattened_of_not_promoted holder hpromoted]
        exact hnext
      | some inner =>
        -- the slot is visited again with the promoted child, which is smaller and flat
        apply again hchild hinner hpromoted
        have hsmaller := size_of_promoted hpromoted
        have hle := size_flattenedInside_le child
        have hreplace : (replace holder (front ++ flattenedInside child :: back) front.length inner).1
            = front ++ inner.withParent (some holder) :: back := by simp [replace]
        have hflat : IsFlat [inner.withParent (some holder)] := by
          rw [IsFlat, plainAll, plain_withParent]
          exact isFlat_of_promoted hpromoted
        have hsizeInner := size_withParent (some holder) inner
        have hagain := ih holder (inner.withParent (some holder) :: back)
          (by rw [sizeAll]; omega) front
        rw [flattenedAll, flattened_eq_self holder _ hflat] at hagain
        rw [hset, hreplace, flattenedAll, flattened_of_promoted holder hpromoted]
        exact hagain

/-- With enough fuel the loop flattens the slots that are still to be visited. -/
theorem flattenSlots_eq {fuel : Nat} (holder : NodeId) (back : List LiveNode)
    (hfuel : sizeAll back < fuel) (front : List LiveNode) :
    flattenSlots holder fuel front.length (front ++ back) = front ++ flattenedAll holder back := by
  refine flattenedAll_induct
    (motive := fun fuel holder place slots out => flattenSlots holder fuel place slots = out)
    ?_ ?_ ?_ holder back hfuel front
  · intro fuel holder place slots hnone
    rw [flattenSlots, hnone]
  · intro fuel holder place slots child below out hchild hbelow hpromoted hrest
    rw [flattenSlots, hchild]
    simp only [hbelow, hpromoted]
    exact hrest
  · intro fuel holder place slots child below inner out hchild hbelow hpromoted hrest
    rw [flattenSlots, hchild]
    simp only [hbelow, hpromoted]
    exact hrest

/-- Flattening in place leaves what the recursion leaves. -/
theorem flattenWrappers_eq_flattenedAll (holder : NodeId) (slots : List LiveNode) :
    flattenWrappers holder slots = flattenedAll holder slots :=
  flattenSlots_eq holder slots (Nat.lt_succ_self _) []

end MarkupCleaner.Live
