import Mathlib.Data.List.Forall2
import MarkupCleaner.Proofs.Live.Flatten

/-!
# Flattening in place is flattening from the inside out

The loop that visits a slot again after a child has been promoted into it comes to an end on every
document, and to the tree that is flattened from the inside out. A second loop finds nothing to promote. The
nodes that are left stand in their old order, and what is gone are wrappers that gave way.
-/

namespace MarkupCleaner.Live

open LiveNode Cleanup

/-! ## The loop without a bound -/

/-- How the loop over the slots of a holder ends that starts at `place`. Each rule is one round, and nothing
    bounds their number: without an end there is no such result. -/
inductive Flattens : NodeId → Nat → List LiveNode → List LiveNode → Prop
  /-- There is no slot left. -/
  | done {holder : NodeId} {place : Nat} {slots : List LiveNode} (here : slots[place]? = none) :
      Flattens holder place slots slots
  /-- The loop has gone over the slots of the node here, which gives way to nothing. It goes on behind. -/
  | next {holder : NodeId} {place : Nat} {slots below out : List LiveNode} {child : LiveNode}
      (here : slots[place]? = some child) (inside : Flattens child.id 0 child.children below)
      (stays : promoted? (child.withChildren below) = none)
      (later : Flattens holder (place + 1) (slots.set place (child.withChildren below)) out) :
      Flattens holder place slots out
  /-- The node here gives way to its only child. The loop comes to the same slot again. -/
  | again {holder : NodeId} {place : Nat} {slots below out : List LiveNode} {child inner : LiveNode}
      (here : slots[place]? = some child) (inside : Flattens child.id 0 child.children below)
      (gone : promoted? (child.withChildren below) = some inner)
      (later : Flattens holder place
        (replace holder (slots.set place (child.withChildren below)) place inner).1 out) :
      Flattens holder place slots out

theorem Flattens.eq_of_none {holder : NodeId} {place : Nat} {slots out : List LiveNode}
    (h : Flattens holder place slots out) (hnone : slots[place]? = none) : out = slots := by
  cases h with
  | done _ => rfl
  | next here _ _ _ =>
    rw [hnone] at here
    cases here
  | again here _ _ _ =>
    rw [hnone] at here
    cases here

/-- A round at a slot: the loop over the slots of its node comes to an end, and what that leaves tells whether
    the loop goes on behind the slot or comes to it again. -/
theorem Flattens.of_some {holder : NodeId} {place : Nat} {slots out : List LiveNode} {child : LiveNode}
    (h : Flattens holder place slots out) (hhere : slots[place]? = some child) :
    ∃ below, Flattens child.id 0 child.children below ∧
      ((promoted? (child.withChildren below) = none ∧
          Flattens holder (place + 1) (slots.set place (child.withChildren below)) out) ∨
        ∃ inner, promoted? (child.withChildren below) = some inner ∧
          Flattens holder place (replace holder (slots.set place (child.withChildren below)) place inner).1
            out) := by
  cases h with
  | done hnone =>
    rw [hnone] at hhere
    cases hhere
  | next here inside stays later =>
    obtain rfl := Option.some.inj (hhere.symm.trans here)
    exact ⟨_, inside, .inl ⟨stays, later⟩⟩
  | again here inside gone later =>
    obtain rfl := Option.some.inj (hhere.symm.trans here)
    exact ⟨_, inside, .inr ⟨_, gone, later⟩⟩

/-- The loop has one result at most. -/
theorem Flattens.unique {holder : NodeId} {place : Nat} {slots out out' : List LiveNode}
    (h : Flattens holder place slots out) (h' : Flattens holder place slots out') : out' = out := by
  induction h generalizing out' with
  | done hnone => exact h'.eq_of_none hnone
  | next hhere _ hstays _ ihInside ihLater =>
    obtain ⟨below, inside, hround⟩ := h'.of_some hhere
    obtain rfl := ihInside inside
    rcases hround with ⟨-, later⟩ | ⟨inner, gone, -⟩
    · exact ihLater later
    · rw [hstays] at gone
      cases gone
  | again hhere _ hgone _ ihInside ihLater =>
    obtain ⟨below, inside, hround⟩ := h'.of_some hhere
    obtain rfl := ihInside inside
    rcases hround with ⟨stays, -⟩ | ⟨inner, gone, later⟩
    · rw [hgone] at stays
      cases stays
    · obtain rfl := Option.some.inj (hgone.symm.trans gone)
      exact ihLater later

/-- The loop comes to an end on all slots. -/
theorem flattens_flattenedAll (holder : NodeId) (slots : List LiveNode) :
    Flattens holder 0 slots (flattenedAll holder slots) :=
  flattenedAll_induct (motive := fun _ holder place slots out => Flattens holder place slots out)
    .done .next .again holder slots (Nat.lt_succ_self _) []

theorem flattens_iff {holder : NodeId} {slots out : List LiveNode} :
    Flattens holder 0 slots out ↔ out = flattenWrappers holder slots := by
  rw [flattenWrappers_eq_flattenedAll]
  constructor
  · intro h
    exact (flattens_flattenedAll holder slots).unique h
  · rintro rfl
    exact flattens_flattenedAll holder slots

/-! ## What stays -/

/-- Whether a node stays: it gives way to nothing once what is below it is flat. -/
def stays (n : LiveNode) : Bool := (promoted? (flattenedInside n)).isNone

/-- A node before and after: it has the same identity, tag, attributes and namespace, perhaps another parent,
    and what is below it is flat. -/
def StaysAs (n m : LiveNode) : Prop := m = (flattenedInside n).withParent m.parent

theorem staysAs_flattenedInside (n : LiveNode) : StaysAs n (flattenedInside n) := by
  cases n <;> rfl

theorem StaysAs.withParent {n m : LiveNode} (h : StaysAs n m) (parent : Option NodeId) :
    StaysAs n (m.withParent parent) := by
  unfold StaysAs at h ⊢
  rw [h]
  cases n <;> rfl

theorem StaysAs.id {n m : LiveNode} (h : StaysAs n m) : m.id = n.id := by
  rw [h]
  cases n <;> rfl

theorem StaysAs.tag? {n m : LiveNode} (h : StaysAs n m) : m.tag? = n.tag? := by
  rw [h]
  cases n <;> rfl

theorem StaysAs.children {n m : LiveNode} (h : StaysAs n m) :
    m.children = flattenedAll n.id n.children := by
  rw [h]
  cases n <;> rfl

mutual

theorem forall₂_staysAs_flattened (holder : NodeId) : ∀ n : LiveNode,
    List.Forall₂ StaysAs (n.nodes.filter stays) (flattened holder n).nodes
  | .element link tag attrs children ns => by
    have ih := forall₂_staysAs_flattenedAll link.id children
    cases hpromoted : promoted? (flattenedInside (.element link tag attrs children ns)) with
    | none =>
      have hstays : stays (.element link tag attrs children ns) = true := by rw [stays, hpromoted]; rfl
      rw [flattened_of_not_promoted holder hpromoted, nodes, List.filter_cons_of_pos hstays]
      exact .cons (staysAs_flattenedInside _) ih
    | some inner =>
      have hgone : ¬stays (.element link tag attrs children ns) = true := by rw [stays, hpromoted]; simp
      have hflat : flattenedAll link.id children = [inner] := (promoted?_eq_some hpromoted).2
      rw [flattened_of_promoted holder hpromoted, nodes, List.filter_cons_of_neg hgone]
      -- what was flattened inside the wrapper takes its place, under another holder
      rw [hflat, nodesAll, nodesAll, List.append_nil, nodes_eq_cons] at ih
      rw [nodes_eq_cons, children_withParent]
      generalize (nodesAll children).filter stays = left at ih ⊢
      cases ih with
      | cons hfirst hrest => exact .cons (hfirst.withParent (some holder)) hrest
  | .text link value => .cons rfl .nil
  | .comment link data => .cons rfl .nil

/-- The nodes that are left are those that stay, in their old order. -/
theorem forall₂_staysAs_flattenedAll (holder : NodeId) : ∀ ns : List LiveNode,
    List.Forall₂ StaysAs ((nodesAll ns).filter stays) (nodesAll (flattenedAll holder ns))
  | [] => .nil
  | n :: ns => by
    rw [nodesAll, List.filter_append, flattenedAll, nodesAll]
    exact List.rel_append (forall₂_staysAs_flattened holder n) (forall₂_staysAs_flattenedAll holder ns)

end

theorem idsAll_flattenedAll (holder : NodeId) (ns : List LiveNode) :
    idsAll (flattenedAll holder ns) = ((nodesAll ns).filter stays).map LiveNode.id := by
  have h := forall₂_staysAs_flattenedAll holder ns
  rw [idsAll_eq_map_nodesAll]
  generalize (nodesAll ns).filter stays = before at h ⊢
  generalize nodesAll (flattenedAll holder ns) = after at h ⊢
  induction h with
  | nil => rfl
  | cons hfirst _ ih => rw [List.map_cons, List.map_cons, hfirst.id, ih]

/-- Of two lists in step, every element of the second one has its counterpart. -/
theorem exists_of_mem_of_forall₂ {α β : Type} {r : α → β → Prop} {xs : List α} {ys : List β}
    (h : List.Forall₂ r xs ys) : ∀ y ∈ ys, ∃ x ∈ xs, r x y := by
  induction h with
  | nil => exact fun y hy => nomatch hy
  | cons hfirst _ ih =>
    rw [List.forall_mem_cons]
    refine ⟨⟨_, List.mem_cons_self, hfirst⟩, fun y hy => ?_⟩
    obtain ⟨x, hx, hr⟩ := ih y hy
    exact ⟨x, List.mem_cons_of_mem _ hx, hr⟩

theorem exists_staysAs (holder : NodeId) {ns : List LiveNode} {n : LiveNode} (hn : n ∈ nodesAll ns)
    (hstays : stays n = true) : ∃ m ∈ nodesAll (flattenedAll holder ns), StaysAs n m :=
  exists_of_mem_of_forall₂ (forall₂_staysAs_flattenedAll holder ns).flip n
    (List.mem_filter.2 ⟨hn, hstays⟩)

/-- An element that is no wrapper stays. -/
theorem stays_of_not_wrapper {n : LiveNode} {tag : String} (htag : n.tag? = some tag)
    (hwrapper : isWrapper tag = false) : stays n = true := by
  cases n with
  | element link tag' attrs children ns =>
    obtain rfl := Option.some.inj htag
    rw [stays, Option.isNone_iff_eq_none, Option.eq_none_iff_forall_ne_some]
    intro inner hinner
    have htrue := (promoted?_eq_some hinner).1
    rw [hwrapper] at htrue
    cases htrue
  | text link value => cases htag
  | comment link data => cases htag

theorem stays_eq_false_iff {n : LiveNode} : stays n = false ↔ IsUnwrapped n.plain := by
  have hinside : (flattenedInside n).plain = Cleanup.flattenedInside n.plain := by
    cases n with
    | element link tag attrs children ns =>
      show Node.element tag attrs (plainAll (flattenedAll link.id children)) ns = _
      rw [plainAll_flattenedAll]
      rfl
    | text link value => rfl
    | comment link data => rfl
  rw [stays, Option.isNone_eq_false_iff, isUnwrapped_iff, ← hinside, ← map_plain_promoted,
    ← Option.isSome_iff_exists, Option.isSome_map]

section

variable {ns : List LiveNode} (holder : NodeId) (hdistinct : (idsAll ns).Nodup)
include hdistinct

theorem mem_idsAll_flattenedAll_iff {n : LiveNode} (hn : n ∈ nodesAll ns) :
    n.id ∈ idsAll (flattenedAll holder ns) ↔ stays n = true := by
  rw [idsAll_flattenedAll, List.mem_map]
  constructor
  · rintro ⟨m, hm, hid⟩
    obtain ⟨hmem, hstays⟩ := List.mem_filter.1 hm
    exact eq_of_id_eq hdistinct hmem hn hid ▸ hstays
  · intro hstays
    exact ⟨n, List.mem_filter.2 ⟨hn, hstays⟩, rfl⟩

theorem staysAs_of_id {n m : LiveNode} (hn : n ∈ nodesAll ns)
    (hm : m ∈ nodesAll (flattenedAll holder ns)) (hid : m.id = n.id) : StaysAs n m := by
  obtain ⟨o, ho, hstays⟩ := exists_of_mem_of_forall₂ (forall₂_staysAs_flattenedAll holder ns) m hm
  have hsame : o.id = n.id := hstays.id.symm.trans hid
  exact eq_of_id_eq hdistinct (List.mem_filter.1 ho).1 hn hsame ▸ hstays

/-- Below a node that is left, in the old order, are the nodes that are left of those below it. -/
theorem idsAll_flattenedAll_children {n : LiveNode} (hn : n ∈ nodesAll ns) :
    idsAll (flattenedAll n.id n.children)
      = (idsAll n.children).filter fun id => id ∈ idsAll (flattenedAll holder ns) := by
  rw [idsAll_flattenedAll, idsAll_eq_map_nodesAll n.children, List.filter_map]
  refine congrArg _ (List.filter_congr fun m hm => ?_)
  have hmem : m ∈ nodesAll ns := nodesAll_children_subset ns n hn hm
  rw [Function.comp_apply, Bool.eq_iff_iff, decide_eq_true_iff,
    mem_idsAll_flattenedAll_iff holder hdistinct hmem]

end

/-! ## A whole document -/

/-- What flattening leaves of the nodes below a holder. -/
structure KeepsUnwrapped (before after : List LiveNode) : Prop where
  /-- A node is gone exactly if it gives way to its only child once what is below it is flat. -/
  gone : ∀ n ∈ nodesAll before, (n.id ∉ idsAll after ↔ IsUnwrapped n.plain)
  /-- A node that is left has its tag, its attributes, its namespace and its text, and of what was below it
      it has below it, in the old order, all that is left. -/
  kept : ∀ n ∈ nodesAll before, ∀ m ∈ nodesAll after, m.id = n.id →
    m = (n.withChildren m.children).withParent m.parent ∧
      idsAll m.children = (idsAll n.children).filter fun id => id ∈ idsAll after

theorem keepsUnwrapped_flattenedAll (holder : NodeId) {ns : List LiveNode}
    (hdistinct : (idsAll ns).Nodup) : KeepsUnwrapped ns (flattenedAll holder ns) where
  gone n hn := by
    rw [mem_idsAll_flattenedAll_iff holder hdistinct hn, Bool.not_eq_true, stays_eq_false_iff]
  kept n hn m hm hid := by
    have hstays := staysAs_of_id holder hdistinct hn hm hid
    rw [hstays.children]
    exact ⟨hstays, idsAll_flattenedAll_children holder hdistinct hn⟩

/-- Flattening a document in place comes to an end, and to the tree that is flattened from the inside out;
    there is one such tree. No wrapper that could give way is left in it, so that flattening it again changes
    nothing, and nothing else is lost. -/
theorem flattenWrappers_isFlattening (t : Fragment) :
    let d := LiveDocument.ofPlain t
    let after := flattenWrappers d.id d.children
    (∀ out, Flattens d.id 0 d.children out ↔ out = after)
      ∧ (∀ f, IsFlattening f ↔ f = flattenNode)
      ∧ plainAll after = t.map flattenNode
      ∧ (∀ tag attrs children ns, .element tag attrs children ns ∈ Node.nodesAll (plainAll after) →
          ∀ c, ¬GivesWay tag attrs children c)
      ∧ flattenWrappers d.id after = after
      ∧ KeepsUnwrapped d.children after := by
  intro d after
  have hafter : after = flattenedAll d.id d.children := flattenWrappers_eq_flattenedAll d.id d.children
  have hplain : plainAll after = flattenBelow t := by
    have hd : plainAll d.children = t := LiveDocument.plain_ofPlain t
    rw [hafter, plainAll_flattenedAll, hd]
  refine ⟨fun out => flattens_iff, fun f => isFlattening_iff, ?_, ?_, ?_, ?_⟩
  · rw [hplain, flattenBelow_eq_map]
  · intro tag attrs children ns hmem c hc
    rw [hplain] at hmem
    have hnone : onlyChild? tag attrs children = none := soleChild?_of_mem_flattenBelow t _ hmem
    rw [givesWay_iff, hnone] at hc
    cases hc
  · rw [flattenWrappers_eq_flattenedAll, hafter]
    exact flattenedAll_eq_self d.id _ (isFlat_flattenedAll d.id d.children)
  · rw [hafter]
    exact keepsUnwrapped_flattenedAll d.id (nodup_idsAll_ofPlain t)

/-- Two wrappers around a paragraph and one inside it give way; the first slot is visited three times. -/
theorem flattenWrappers_isFlattening_chain :
    let d := LiveDocument.ofPlain
      [.element "div" [] [.element "span" [⟨"class", " "⟩] [.element "p" [] [.text "a",
        .element "div" [] [.element "b" [⟨"id", "c"⟩] [] none] none] none] none] none]
    let after := flattenWrappers d.id d.children
    Flattens d.id 0 d.children after
      ∧ plainAll after = [.element "p" [] [.text "a", .element "b" [⟨"id", "c"⟩] [] none] none]
      ∧ (∀ c, ¬GivesWay "p" [] [.text "a", .element "b" [⟨"id", "c"⟩] [] none] c)
      ∧ idsAll d.children = [1, 2, 3, 4, 5, 6] ∧ idsAll after = [3, 4, 6]
      ∧ flattenWrappers d.id after = after ∧ KeepsUnwrapped d.children after := by
  intro d after
  obtain ⟨hends, -, hplain, hleft, hagain, hkeeps⟩ := flattenWrappers_isFlattening
    [.element "div" [] [.element "span" [⟨"class", " "⟩] [.element "p" [] [.text "a",
      .element "div" [] [.element "b" [⟨"id", "c"⟩] [] none] none] none] none] none]
  have hafter : plainAll after = [.element "p" [] [.text "a", .element "b" [⟨"id", "c"⟩] [] none] none] := by
    rw [hplain]
    decide +kernel
  have hmem : .element "p" [] [.text "a", .element "b" [⟨"id", "c"⟩] [] none] none
      ∈ Node.nodesAll (plainAll after) := by
    rw [hafter]
    exact List.mem_cons_self
  exact ⟨(hends after).2 rfl, hafter, hleft "p" [] _ none hmem, by decide +kernel, by decide +kernel,
    hagain, hkeeps⟩

end MarkupCleaner.Live
