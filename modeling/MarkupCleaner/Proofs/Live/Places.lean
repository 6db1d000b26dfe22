import Mathlib.Data.Option.Basic
import MarkupCleaner.Proofs.Live.Edit

/-!
# Places

What is at the places of a document. A document is told by its nodes, each without what is below it, at all
of its places. An edit leaves every node in its place, and what it does to a node there is settled by the
nodes above, from the outermost one inwards.
-/

namespace MarkupCleaner

namespace LiveNode

/-- A node without what is below it. -/
def bare (n : LiveNode) : LiveNode := n.withChildren []

theorem withChildren_bare (n : LiveNode) : n.bare.withChildren n.children = n := by
  cases n <;> rfl

theorem find?_cons (slots : List LiveNode) (index : Nat) {path : Path} (h : path ≠ []) :
    find? slots (index :: path) = slots[index]?.bind fun n => find? n.children path := by
  cases path with
  | nil => exact absurd rfl h
  | cons next path => rfl

/-- A child is one step further than its parent. -/
theorem find?_concat {slots : List LiveNode} {path : Path} {n : LiveNode} (h : find? slots path = some n)
    (index : Nat) : find? slots (path ++ [index]) = n.children[index]? := by
  induction path generalizing slots with
  | nil => cases h
  | cons first path ih =>
    rw [List.cons_append, find?_cons _ _ (List.append_ne_nil_of_right_ne_nil _ (List.cons_ne_nil _ _))]
    by_cases hpath : path = []
    · subst hpath
      have hfirst : slots[first]? = some n := h
      rw [hfirst]
      rfl
    · rw [find?_cons _ _ hpath] at h
      obtain ⟨m, hm, hbelow⟩ := Option.bind_eq_some_iff.1 h
      rw [hm]
      exact ih hbelow

/-- A place is at the top, or there is a node one step before. -/
theorem eq_nil_or_exists_holder {slots : List LiveNode} {path : Path} {index : Nat} {m : LiveNode}
    (h : find? slots (path ++ [index]) = some m) : path = [] ∨ ∃ n, find? slots path = some n := by
  induction path generalizing slots with
  | nil => exact Or.inl rfl
  | cons first path ih =>
    refine Or.inr ?_
    rw [List.cons_append, find?_cons _ _ (List.append_ne_nil_of_right_ne_nil _ (List.cons_ne_nil _ _))] at h
    obtain ⟨n, hn, hbelow⟩ := Option.bind_eq_some_iff.1 h
    rcases ih hbelow with rfl | ⟨o, ho⟩
    · exact ⟨n, hn⟩
    · have hpath : path ≠ [] := by
        rintro rfl
        cases ho
      refine ⟨o, ?_⟩
      rw [find?_cons _ _ hpath, hn]
      exact ho

/-- Documents are the same if they have the same nodes at the same places, what is below these apart. -/
theorem eq_of_map_bare_find? : ∀ {ns ms : List LiveNode},
    (∀ path, (find? ns path).map bare = (find? ms path).map bare) → ns = ms
  | [], [], _ => rfl
  | [], m :: ms, h => nomatch h [0]
  | n :: ns, [], h => nomatch h [0]
  | n :: ns, m :: ms, h => by
    have hbare : n.bare = m.bare := Option.some.inj (h [0])
    have hchildren : n.children = m.children := by
      refine eq_of_map_bare_find? fun path => ?_
      cases path with
      | nil => rfl
      | cons index path => exact h (0 :: index :: path)
    have hrest : ns = ms := by
      refine eq_of_map_bare_find? fun path => ?_
      rcases path with _ | ⟨index, _ | ⟨next, path⟩⟩
      · rfl
      · exact h [index + 1]
      · exact h ((index + 1) :: next :: path)
    rw [hrest, ← withChildren_bare n, ← withChildren_bare m, hbare, hchildren]
termination_by ns => sizeAll ns
decreasing_by
  · exact Nat.lt_add_right _ (sizeAll_children_lt n)
  · exact Nat.lt_add_of_pos_left (size_pos n)

end LiveNode

namespace Live

open LiveNode

/-- What two documents have at a place: either both a node, and these are in the relation for the place, or
    both none. -/
def PlaceByPlace (r : Path → LiveNode → LiveNode → Prop) (before after : List LiveNode) : Prop :=
  ∀ path, Option.Rel (r path) (find? before path) (find? after path)

section

variable {r : Path → LiveNode → LiveNode → Prop} {before after : List LiveNode} {path : Path} {n m : LiveNode}

theorem PlaceByPlace.exists_before (h : PlaceByPlace r before after) (hm : find? after path = some m) :
    ∃ n, find? before path = some n ∧ r path n m := by
  have hpath := h path
  rw [hm] at hpath
  generalize find? before path = there at hpath
  cases hpath with
  | some hr => exact ⟨_, rfl, hr⟩

/-- At a place where a relation settles the node after by the node before, it settles what is there. -/
theorem PlaceByPlace.map_bare_eq {r' : Path → LiveNode → LiveNode → Prop} {after' : List LiveNode}
    (h : PlaceByPlace r before after) (h' : PlaceByPlace r' before after')
    (hsettles : ∀ n m m', r path n m → r' path n m' → m.bare = m'.bare) :
    (find? after path).map bare = (find? after' path).map bare := by
  have hpath := h path
  have hpath' := h' path
  generalize find? before path = there at hpath hpath'
  generalize find? after path = here at hpath
  generalize find? after' path = here' at hpath'
  cases hpath with
  | none =>
    cases hpath'
    rfl
  | some hr =>
    cases hpath' with
    | some hr' => exact congrArg some (hsettles _ _ _ hr hr')

end

/-! ## Edits -/

namespace Edit

variable {σ : Type}

/-- What a node hands on to the nodes below it. -/
def handOn (e : Edit σ) (s : σ) : LiveNode → σ
  | .element _ tag attrs _ _ => e.below s tag attrs
  | .text .. => s
  | .comment .. => s

/-- What is handed on to the node at a place. -/
def handedTo (e : Edit σ) (s : σ) (slots : List LiveNode) : Path → σ
  | index :: next :: path =>
    match slots[index]? with
    | some n => handedTo e (e.handOn s n) n.children (next :: path)
    | none => s
  | _ => s

theorem handedTo_of_here {slots : List LiveNode} {index : Nat} {n : LiveNode} (h : slots[index]? = some n)
    (e : Edit σ) (s : σ) {path : Path} (hpath : path ≠ []) :
    e.handedTo s slots (index :: path) = e.handedTo (e.handOn s n) n.children path := by
  cases path with
  | nil => exact absurd rfl hpath
  | cons next path => rw [handedTo, h]

/-- A node hands on to its children what it makes of what it has been handed. -/
theorem handedTo_concat {slots : List LiveNode} {path : Path} {n : LiveNode} (h : find? slots path = some n)
    (e : Edit σ) (s : σ) (index : Nat) :
    e.handedTo s slots (path ++ [index]) = e.handOn (e.handedTo s slots path) n := by
  induction path generalizing s slots with
  | nil => cases h
  | cons first path ih =>
    have hnext : path ++ [index] ≠ [] := List.append_ne_nil_of_right_ne_nil _ (List.cons_ne_nil _ _)
    rw [List.cons_append]
    by_cases hpath : path = []
    · subst hpath
      exact handedTo_of_here h e s hnext
    · rw [find?_cons _ _ hpath] at h
      obtain ⟨m, hm, hbelow⟩ := Option.bind_eq_some_iff.1 h
      rw [handedTo_of_here hm e s hnext, handedTo_of_here hm e s hpath, ih hbelow]

end Edit

variable {σ : Type}

theorem editBelow_eq_map (e : Edit σ) (s : σ) (ns : List LiveNode) :
    editBelow e s ns = ns.map (editNode e s) := by
  induction ns with
  | nil => rfl
  | cons n ns ih => rw [editBelow, ih, List.map_cons]

theorem children_editNode (e : Edit σ) (s : σ) (n : LiveNode) :
    (editNode e s n).children = editBelow e (e.handOn s n) n.children := by
  cases n <;> rfl

/-- Every node is edited in its place. -/
theorem find?_editBelow (e : Edit σ) (s : σ) (slots : List LiveNode) (path : Path) :
    find? (editBelow e s slots) path = (find? slots path).map (editNode e (e.handedTo s slots path)) := by
  induction path generalizing s slots with
  | nil => rfl
  | cons index path ih =>
    have hhere : (editBelow e s slots)[index]? = slots[index]?.map (editNode e s) := by
      rw [editBelow_eq_map, List.getElem?_map]
    by_cases hpath : path = []
    · subst hpath
      exact hhere
    · rw [find?_cons _ _ hpath, find?_cons _ _ hpath, hhere]
      cases hslot : slots[index]? with
      | none => rfl
      | some n =>
        rw [Edit.handedTo_of_here hslot e s hpath]
        show find? (editNode e s n).children path = _
        rw [children_editNode]
        exact ih _ _

/-- What an edit does at a place is what it does to the node there. -/
theorem placeByPlace_editBelow {r : Path → LiveNode → LiveNode → Prop} {e : Edit σ} {s : σ}
    {slots : List LiveNode}
    (h : ∀ path n, find? slots path = some n → r path n (editNode e (e.handedTo s slots path) n)) :
    PlaceByPlace r slots (editBelow e s slots) := by
  intro path
  rw [find?_editBelow]
  cases hn : find? slots path with
  | none => exact .none
  | some n => exact .some (h path n hn)

mutual

theorem Edit.Settles.editNode_editNode {e : Edit σ} (h : e.Settles) (s : σ) : ∀ n : LiveNode,
    editNode e s (editNode e s n) = editNode e s n
  | .element link tag attrs children ns => by
    rw [editNode, editNode, h.tag, h.attrs, h.below, h.editBelow_editBelow]
  | .text link value => congrArg (LiveNode.text link) (h.text s value)
  | .comment link data => rfl

theorem Edit.Settles.editBelow_editBelow {e : Edit σ} (h : e.Settles) (s : σ) : ∀ ns : List LiveNode,
    editBelow e s (editBelow e s ns) = editBelow e s ns
  | [] => rfl
  | n :: ns => by rw [editBelow, editBelow, h.editNode_editNode, h.editBelow_editBelow]

end

end Live
end MarkupCleaner
