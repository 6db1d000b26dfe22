import MarkupCleaner.Proofs.Live.Slots

/-!
# Changes keep documents sound

Whatever is done to a sound document, at any of its nodes and as often as one likes, leaves it sound: every
node is in one slot only and remembers the node that holds it. A node that leaves its slot forgets its
parent, and a change to a slot that is not there does nothing.
-/

namespace MarkupCleaner.Live

open LiveNode

/-! ## Paths -/

theorem modify_between (f : LiveNode → LiveNode) (front : List LiveNode) (m : LiveNode)
    (back : List LiveNode) : (front ++ m :: back).modify front.length f = front ++ f m :: back := by
  induction front with
  | nil => rfl
  | cons first front ih => rw [List.cons_append, List.length_cons, List.modify_succ_cons, ih]; rfl

theorem modifyAt_here (f : LiveNode → LiveNode) (front : List LiveNode) (m : LiveNode)
    (back : List LiveNode) :
    modifyAt f (front ++ m :: back) [front.length] = front ++ f m :: back :=
  modify_between f front m back

theorem modifyAt_below (f : LiveNode → LiveNode) (front : List LiveNode) (m : LiveNode)
    (back : List LiveNode) {path : Path} (hpath : path ≠ []) :
    modifyAt f (front ++ m :: back) (front.length :: path)
      = front ++ m.withChildren (modifyAt f m.children path) :: back := by
  cases path with
  | nil => exact absurd rfl hpath
  | cons index path => exact modify_between _ front m back

/-- A path that leads to a node ends in its slot, or goes through the slot of a node further up. -/
theorem find?_induct {n : LiveNode} {motive : Path → List LiveNode → Prop}
    (here : ∀ front back, motive [front.length] (front ++ n :: back))
    (below : ∀ front m back path, path ≠ [] → find? m.children path = some n →
      motive path m.children → motive (front.length :: path) (front ++ m :: back)) :
    ∀ {path : Path} {slots : List LiveNode}, find? slots path = some n → motive path slots
  | [], slots, h => nomatch h
  | [index], slots, h => by
    obtain ⟨front, back, rfl, rfl⟩ := exists_slots h
    exact here front back
  | index :: next :: path, slots, h => by
    obtain ⟨m, hm, hbelow⟩ := Option.bind_eq_some_iff.1 h
    obtain ⟨front, back, rfl, rfl⟩ := exists_slots hm
    exact below front m back (next :: path) (List.cons_ne_nil _ _) hbelow
      (find?_induct here below hbelow)

theorem id_withChildren (children : List LiveNode) (n : LiveNode) :
    (n.withChildren children).id = n.id := by
  cases n <;> rfl

theorem parent_withChildren (children : List LiveNode) (n : LiveNode) :
    (n.withChildren children).parent = n.parent := by
  cases n <;> rfl

/-- A node on the way of a path is an element. -/
theorem children_withChildren {m n : LiveNode} {path : Path} (h : find? m.children path = some n)
    (children : List LiveNode) : (m.withChildren children).children = children := by
  cases m with
  | element link tag attrs below ns => rfl
  | text link value => rcases path with _ | ⟨index, _ | ⟨next, path⟩⟩ <;> cases h
  | comment link data => rcases path with _ | ⟨index, _ | ⟨next, path⟩⟩ <;> cases h

section

variable {f : LiveNode → LiveNode} {n : LiveNode}

/-- A node on the path stays linked if the one at its end does. -/
theorem linked_modifyAt (hid : (f n).id = n.id) (hparent : (f n).parent = n.parent)
    (hbelow : Linked n.id n.children → Linked n.id (f n).children) {path : Path}
    {slots : List LiveNode} (h : find? slots path = some n) :
    ∀ {holder : NodeId}, Linked holder slots → Linked holder (modifyAt f slots path) := by
  refine find?_induct
    (motive := fun path slots => ∀ {holder}, Linked holder slots → Linked holder (modifyAt f slots path))
    ?here ?below h
  case here =>
    intro front back holder hlinked
    obtain ⟨hfront, ⟨hslot, hchildren⟩, hback⟩ := linked_between.1 hlinked
    rw [modifyAt_here]
    refine linked_between.2 ⟨hfront, ⟨hparent.trans hslot, ?_⟩, hback⟩
    rw [hid]
    exact hbelow hchildren
  case below =>
    intro front m back path hpath hfind ih holder hlinked
    obtain ⟨hfront, ⟨hslot, hchildren⟩, hback⟩ := linked_between.1 hlinked
    rw [modifyAt_below f front m back hpath]
    refine linked_between.2 ⟨hfront, ⟨(parent_withChildren _ m).trans hslot, ?_⟩, hback⟩
    rw [id_withChildren, children_withChildren hfind]
    exact ih hchildren

/-- The identities of the whole are changed as those of the node at the end of the path. -/
theorem grown_modifyAt {next next' : NodeId} {left : List NodeId}
    (hgrown : Grown next next' n.ids ((f n).ids ++ left)) {path : Path} {slots : List LiveNode}
    (h : find? slots path = some n) :
    Grown next next' (idsAll slots) (idsAll (modifyAt f slots path) ++ left) := by
  have hbetween : ∀ (front back : List LiveNode) (m m' : LiveNode),
      Grown next next' m.ids (m'.ids ++ left) →
      Grown next next' (idsAll (front ++ m :: back)) (idsAll (front ++ m' :: back) ++ left) := by
    intro front back m m' hm
    rw [idsAll_between, idsAll_between]
    refine (hm.between (idsAll front) (idsAll back)).perm (List.perm_iff_count.2 fun id => ?_)
    simp only [List.count_append]
    omega
  refine find?_induct
    (motive := fun path slots =>
      Grown next next' (idsAll slots) (idsAll (modifyAt f slots path) ++ left))
    ?here ?below h
  case here =>
    intro front back
    rw [modifyAt_here]
    exact hbetween front back n (f n) hgrown
  case below =>
    intro front m back path hpath hfind ih
    rw [modifyAt_below f front m back hpath]
    refine hbetween front back m _ ?_
    rw [ids_eq_cons m, ids_eq_cons (m.withChildren _), id_withChildren, children_withChildren hfind]
    exact ih.cons m.id

theorem linked_of_find? {path : Path} {slots : List LiveNode} (h : find? slots path = some n) :
    ∀ {holder : NodeId}, Linked holder slots → Linked n.id n.children := by
  refine find?_induct
    (motive := fun _ slots => ∀ {holder}, Linked holder slots → Linked n.id n.children) ?here ?below h
  case here => exact fun front back holder hlinked => (linked_between.1 hlinked).2.1.2
  case below =>
    exact fun front m back path _ _ ih holder hlinked => ih (linked_between.1 hlinked).2.1.2

theorem idsAll_subset_of_find? {path : Path} {slots : List LiveNode}
    (h : find? slots path = some n) : idsAll n.children ⊆ idsAll slots := by
  have hbetween : ∀ (front back : List LiveNode) (m : LiveNode),
      idsAll m.children ⊆ idsAll (front ++ m :: back) := by
    intro front back m id hid
    rw [idsAll_between, ids_eq_cons]
    simp [hid]
  refine find?_induct (motive := fun _ slots => idsAll n.children ⊆ idsAll slots) ?here ?below h
  case here => exact fun front back => hbetween front back n
  case below => exact fun front m back path _ _ ih => List.Subset.trans ih (hbetween front back m)

/-- Changing a node into itself changes nothing. -/
theorem modifyAt_eq_self (hf : f n = n) {path : Path} {slots : List LiveNode}
    (h : find? slots path = some n) : modifyAt f slots path = slots := by
  refine find?_induct (motive := fun path slots => modifyAt f slots path = slots) ?here ?below h
  case here =>
    intro front back
    rw [modifyAt_here, hf]
  case below =>
    intro front m back path hpath hfind ih
    have hself : m.withChildren m.children = m := by cases m <;> rfl
    rw [modifyAt_below f front m back hpath, ih, hself]

end

/-! ## Documents -/

theorem sound_iff {d : LiveDocument} : d.Sound ↔
    Linked d.id d.children ∧ d.ids.Nodup ∧ ∀ id ∈ d.ids, id < d.next := by
  have hlinked : (LivePart.document d).misplaced = [] ↔ Linked d.id d.children :=
    misplacedFrom_eq_nil_iff d.id [] 0 d.children
  constructor
  · rintro ⟨hplaced, hdistinct, hfree⟩
    exact ⟨hlinked.1 hplaced, hdistinct, hfree⟩
  · rintro ⟨hplaced, hdistinct, hfree⟩
    exact ⟨hlinked.2 hplaced, hdistinct, hfree⟩

/-- A new document is sound. -/
theorem sound_ofPlain (t : Fragment) : (LiveDocument.ofPlain t).Sound := by
  obtain ⟨hids, hnext⟩ := idsAll_ofPlainAll 0 1 t
  have hall : (LiveDocument.ofPlain t).ids = List.range' 0 (Node.sizeAll t + 1) := by
    show 0 :: idsAll (ofPlainAll 0 1 t).1 = _
    rw [hids, List.range'_succ]
  refine sound_iff.2 ⟨linked_ofPlainAll 0 1 t, ?_, fun id hid => ?_⟩
  · rw [hall]
    exact List.nodup_range'
  · rw [hall, List.mem_range'_1] at hid
    show id < (ofPlainAll 0 1 t).2
    rw [hnext]
    exact Nat.lt_of_lt_of_eq hid.2 (by omega)

/-- The node at the end of a path after a change to it. -/
def edited (c : Change) (children : List LiveNode) (n : LiveNode) : LiveNode :=
  (n.mapAttributes c.onAttributes).withChildren children

section

variable {c : Change} {children : List LiveNode} {n : LiveNode}

theorem id_edited : (edited c children n).id = n.id := by
  cases n <;> rfl

theorem parent_edited : (edited c children n).parent = n.parent := by
  cases n <;> rfl

/-- A text and a comment do not get any children. -/
theorem children_edited (c : Change) (children : List LiveNode) (n : LiveNode) :
    (edited c children n).children = children ∨ (edited c children n).children = [] := by
  cases n with
  | element link tag attrs below ns => exact Or.inl rfl
  | text link value => exact Or.inr rfl
  | comment link data => exact Or.inr rfl

/-- A change to a slot that is not there leaves a node as it is. -/
theorem edited_eq_self {index : Int} (hindex : c.slotIndex? = some index) :
    edited c n.children n = n := by
  cases c with
  | replace i child => cases n <;> rfl
  | replaceSame i => cases n <;> rfl
  | remove i => cases n <;> rfl
  | _ => cases hindex

theorem linked_edited (h : Linked n.id children) : Linked n.id (edited c children n).children := by
  rcases children_edited c children n with hall | hnone
  · rwa [hall]
  · rw [hnone]
    exact linked_nil

theorem grown_edited {next next' : NodeId} {left : List NodeId}
    (h : Grown next next' (idsAll n.children) (idsAll children ++ left)) :
    Grown next next' n.ids ((edited c children n).ids ++ left) := by
  rw [ids_eq_cons n, ids_eq_cons (edited c children n), id_edited, List.cons_append]
  refine (h.cons n.id).subset (List.Sublist.cons_cons _ (List.Sublist.append_right ?_ left))
  rcases children_edited c children n with hall | hnone
  · rw [hall]
  · rw [hnone]
    exact List.nil_sublist _

end

/-! ## One change -/

/-- A document whose children were changed in a way that keeps links and identities. -/
theorem sound_of_grown {d : LiveDocument} (h : d.Sound) {children : List LiveNode} {next : NodeId}
    {left : List NodeId} (hlinked : Linked d.id children)
    (hgrown : Grown d.next next (idsAll d.children) (idsAll children ++ left)) :
    LiveDocument.Sound { d with children, next } ∧
      ∀ id ∈ left, id ∉ LiveDocument.ids { d with children, next } := by
  obtain ⟨-, hdistinct, hfree⟩ := sound_iff.1 h
  have hall := (hgrown.cons d.id).nodup hdistinct hfree
  rw [← List.cons_append, List.nodup_append] at hall
  refine ⟨sound_iff.2 ⟨hlinked, hall.1, fun id hid => ?_⟩, fun id hleft hid => ?_⟩
  · exact (hgrown.cons d.id).lt hfree id (List.mem_append_left left hid)
  · exact hall.2.2 id hid id hleft rfl

/-- What a change to a part of a sound document does. -/
structure Orderly (d : LiveDocument) (path : Path) (c : Change) : Prop where
  /-- Every node still is in one slot only and remembers the node that holds it. -/
  sound : (change d path c).document.Sound
  /-- A node that has left its slot has no parent, and nothing of it is left in the document. -/
  apart : ∀ n, (change d path c).left = some n →
    n.parent = none ∧ ∀ id ∈ n.ids, id ∉ (change d path c).document.ids
  /-- With the index of a slot the change is made, and the child in that slot leaves it unless it is put
      back. -/
  leaves : ∀ p index child, d.find? path = some p → c.slotIndex? = some index →
    IsSlotIndex p.children.length index →
    p.children[(index % p.children.length).toNat]? = some child →
      (change d path c).fault = none ∧ (change d path c).left = c.leaving child
  /-- Any other index is refused, and nothing is changed. -/
  refused : ∀ p index, d.find? path = some p → c.slotIndex? = some index →
    ¬IsSlotIndex p.children.length index →
      change d path c = { document := d, fault := some .noSuchSlot }

section

variable {d : LiveDocument} {path : Path} {p : LivePart}

/-- A part of a document is the document itself or a node that a path through its slots leads to. -/
theorem find?_cases (hfind : d.find? path = some p) :
    (path = [] ∧ p = .document d) ∨
      ∃ n, LiveNode.find? d.children path = some n ∧ p = .node n := by
  cases path with
  | nil => exact Or.inl ⟨rfl, (Option.some.inj hfind).symm⟩
  | cons index path =>
    obtain ⟨n, hn, rfl⟩ := Option.map_eq_some_iff.1 hfind
    exact Or.inr ⟨n, hn, rfl⟩

/-- Below a part of a sound document all nodes are linked and use no free identity. -/
theorem linked_of_sound (h : d.Sound) (hfind : d.find? path = some p) :
    Linked p.id p.children ∧ ∀ id ∈ idsAll p.children, id < d.next := by
  obtain ⟨hlinked, -, hfree⟩ := sound_iff.1 h
  have hused : ∀ id ∈ idsAll d.children, id < d.next := fun id hid =>
    hfree id (List.mem_cons_of_mem _ hid)
  rcases find?_cases hfind with ⟨-, rfl⟩ | ⟨n, hn, rfl⟩
  · exact ⟨hlinked, hused⟩
  · exact ⟨linked_of_find? hn hlinked, fun id hid => hused id (idsAll_subset_of_find? hn hid)⟩

/-- What a change to a part comes to for the whole document: its children are as sound as those of the part,
    and the same if a slot was refused. -/
theorem change_of_find? (h : d.Sound) (hfind : d.find? path = some p) (c : Change) : ∃ children,
    change d path c = (c.onChildren p.id d.next p.children).close { d with children } ∧
      Linked d.id children ∧
      Grown d.next (c.onChildren p.id d.next p.children).next (idsAll d.children)
        (idsAll children ++ leftIds (c.onChildren p.id d.next p.children).left) ∧
      ∀ index, c.slotIndex? = some index →
        (c.onChildren p.id d.next p.children).children = p.children → children = d.children := by
  obtain ⟨hbelow, hused⟩ := linked_of_sound h hfind
  have hkeeps := c.keeps_onChildren hbelow hused
  rcases find?_cases hfind with ⟨rfl, rfl⟩ | ⟨n, hn, rfl⟩
  · refine ⟨(c.onChildren d.id d.next d.children).children, rfl, hkeeps.linked, hkeeps.grown, ?_⟩
    exact fun index _ hsame => hsame
  · refine ⟨modifyAt (edited c (c.onChildren n.id d.next n.children).children) d.children path, ?_,
      ?_, ?_, ?_⟩
    · rw [change, hfind]
      rfl
    · exact linked_modifyAt id_edited parent_edited (fun _ => linked_edited hkeeps.linked) hn
        (sound_iff.1 h).1
    · exact grown_modifyAt (grown_edited hkeeps.grown) hn
    · intro index hindex hsame
      rw [show (c.onChildren n.id d.next n.children).children = n.children from hsame]
      exact modifyAt_eq_self (edited_eq_self hindex) hn

/-- Every change to a sound document keeps it sound, lets a node that leaves its slot forget its parent, and
    does nothing if the slot is not there. -/
theorem orderly_change (h : d.Sound) (path : Path) (c : Change) : Orderly d path c := by
  cases hfind : d.find? path with
  | none =>
    have hchange : change d path c = { document := d, fault := some .noSuchSlot } := by
      rw [change, hfind]
    refine ⟨?_, fun n hn => ?_, fun p _ _ hp => ?_, fun p _ hp => ?_⟩
    · rw [hchange]
      exact h
    · rw [hchange] at hn
      cases hn
    · rw [hfind] at hp
      cases hp
    · rw [hfind] at hp
      cases hp
  | some p =>
    obtain ⟨hbelow, hused⟩ := linked_of_sound h hfind
    obtain ⟨children, hchange, hlinked, hgrown, hsame⟩ := change_of_find? h hfind c
    obtain ⟨hsound, hapart⟩ := sound_of_grown h hlinked hgrown
    refine ⟨?_, fun n hn => ?_, fun q index child hq hindex hslot hchild => ?_,
      fun q index hq hindex hslot => ?_⟩
    · rw [hchange]
      exact hsound
    · rw [hchange] at hn ⊢
      refine ⟨(c.keeps_onChildren hbelow hused).left n hn, fun id hid => hapart id ?_⟩
      rw [show (c.onChildren p.id d.next p.children).left = some n from hn]
      exact hid
    · obtain rfl := Option.some.inj (hfind.symm.trans hq)
      rw [hchange]
      obtain ⟨hfault, hleft, -⟩ := Change.onChildren_of_isSlotIndex hindex hslot hchild hbelow hused
      exact ⟨hfault, hleft⟩
    · obtain rfl := Option.some.inj (hfind.symm.trans hq)
      have heffect : c.onChildren p.id d.next p.children
          = { children := p.children, next := d.next, fault := some .noSuchSlot } :=
        Change.onChildren_of_not_isSlotIndex hindex hslot
      rw [hchange, hsame index hindex (by rw [heffect]), heffect]
      rfl

end

/-! ## Runs -/

/-- A run of changes keeps a sound document sound. -/
theorem sound_changeAll {d : LiveDocument} (h : d.Sound) (changes : List (Path × Change)) :
    (changeAll d changes).Sound := by
  induction changes generalizing d with
  | nil => exact h
  | cons first changes ih => exact ih (orderly_change h first.1 first.2).sound

/-- After any run of changes to a sound document it is sound, and so is what the next change does. -/
theorem orderly_changeAll {d : LiveDocument} (h : d.Sound) (changes : List (Path × Change)) :
    (changeAll d changes).Sound ∧ ∀ path c, Orderly (changeAll d changes) path c := by
  have hsound := sound_changeAll h changes
  exact ⟨hsound, orderly_change hsound⟩

/-- A run in which a wrapper gives way to its child, which then loses its last child but one. -/
theorem orderly_changeAll_wrapper :
    let d := LiveDocument.ofPlain
      [.element "div" [] [.element "p" [] [.text "a", .text "b"] none] none, .text "c"]
    let changes : List (Path × Change) :=
      [([], .pass .flattenWrappers), ([0], .append (.comment "d")), ([], .replaceSame (-1)),
        ([0], .remove 3)]
    let d' := changeAll d changes
    d.Sound ∧ d'.Sound ∧ d'.ids = [0, 2, 3, 4, 6, 5] ∧
      ((change d' [0] (.remove (-2))).left.map LiveNode.link) = some ⟨4, none⟩ ∧
      (∃ p, d'.find? [0] = some p ∧ ¬IsSlotIndex p.children.length (-4) ∧
        change d' [0] (.remove (-4)) = { document := d', fault := some .noSuchSlot }) := by
  intro d changes d'
  have hsound : d.Sound := sound_ofPlain _
  obtain ⟨hafter, horderly⟩ := orderly_changeAll hsound changes
  have hrun : d' = { id := 0, next := 7, children := [.element ⟨2, some 0⟩ "p" []
      [.text ⟨3, some 2⟩ "a", .text ⟨4, some 2⟩ "b", .comment ⟨6, some 2⟩ "d"] none,
      .text ⟨5, some 0⟩ "c"] } := by rfl
  have hfind : d'.find? [0] = some (.node (.element ⟨2, some 0⟩ "p" []
      [.text ⟨3, some 2⟩ "a", .text ⟨4, some 2⟩ "b", .comment ⟨6, some 2⟩ "d"] none)) := by
    rw [hrun]
    rfl
  have hout : ¬IsSlotIndex 3 (-4) := by decide
  refine ⟨hsound, hafter, by rw [hrun]; rfl, ?_, _, hfind, hout, ?_⟩
  · obtain ⟨-, hleft⟩ := (horderly [0] (.remove (-2))).leaves _ (-2) (.text ⟨4, some 2⟩ "b") hfind rfl
      (by decide) rfl
    rw [hleft]
    rfl
  · exact (horderly [0] (.remove (-4))).refused _ _ hfind rfl hout

end MarkupCleaner.Live
