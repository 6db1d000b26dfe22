import MarkupCleaner.Proofs.Image.Filled
import MarkupCleaner.Proofs.Image.Recursion

/-!
# What a second replacement of images finds

Whether an element is an icon is decided before anything in it is replaced. An image is no box, so an
element that was no icon for one box that is not placed becomes an icon when that box becomes an image.
Such a late icon is all that is left to replace, since an element has content afterwards exactly if it had
some before.
-/

namespace MarkupCleaner.Image

open Node Cleanup

/-! ## Boxes -/

/-- The boxes among some children: for each of them, whether it is placed. -/
def boxPlacings (children : List Node) : List Bool := (children.filter isBox).map isPlacedBox

theorem boxPlacings_cons (c : Node) (cs : List Node) :
    boxPlacings (c :: cs) = boxPlacings [c] ++ boxPlacings cs := by
  rw [boxPlacings, boxPlacings, boxPlacings, ← List.map_append, ← List.filter_append, List.singleton_append]

/-- Of its children only the boxes make an element an icon. -/
theorem isIcon_eq_of_boxPlacings {cs ds : List Node} (h : boxPlacings cs = boxPlacings ds) (tag : String)
    (attrs : Attributes) : isIcon tag attrs cs = isIcon tag attrs ds := by
  have hlength : (cs.filter isBox).length = (ds.filter isBox).length := by
    have hmap := congrArg List.length h
    rwa [boxPlacings, boxPlacings, List.length_map, List.length_map] at hmap
  have hall : (cs.filter isBox).all isPlacedBox = (ds.filter isBox).all isPlacedBox := by
    have hmap := congrArg (List.all · id) h
    simp only [boxPlacings, List.all_map] at hmap
    exact hmap
  rw [isIcon, isIcon, hlength, hall]

theorem exists_isBox_of_isIcon {tag : String} {attrs : Attributes} {cs : List Node}
    (h : isIcon tag attrs cs = true) : ∃ c ∈ cs, isBox c = true := by
  have hlength : 2 ≤ (cs.filter isBox).length := by
    simp only [isIcon, Bool.and_eq_true, decide_eq_true_eq] at h
    exact h.1.2
  obtain ⟨c, hc⟩ := List.exists_mem_of_length_pos (Nat.lt_of_lt_of_le Nat.zero_lt_two hlength)
  exact ⟨c, List.mem_filter.1 hc⟩

theorem isElement_of_isBox {c : Node} (h : isBox c = true) : c.isElement = true := by
  cases c with
  | element tag attrs children ns => rfl
  | text value => cases h
  | comment data => cases h

theorem hasContent_of_isElement {k : Node} {cs : List Node} (hk : k ∈ nodesAll cs)
    (helement : k.isElement = true) : hasContent cs = true := by
  refine any_isContent_of_mem hk ?_
  rw [isContent, helement, Bool.true_or]

theorem eq_div_of_isIcon {tag : String} {attrs : Attributes} {cs : List Node}
    (h : isIcon tag attrs cs = true) : tag = "div" := by
  simp only [isIcon, Bool.and_eq_true, decide_eq_true_eq] at h
  exact h.1.1.1.1.1.1

section

variable {options : ImageOptions} {tag : String} {attrs : Attributes} {children : List Node}
  {ns : Option String} {n m : Node} {cs ds : List Node}

/-- Only a `div` is replaced. -/
theorem eq_div_of_isReplaced (h : isReplaced options (.element tag attrs children ns) = true) :
    tag = "div" := by
  rw [isReplaced_element, Bool.or_eq_true] at h
  rcases h with hicon | hbox
  · exact eq_div_of_isIcon (Bool.and_eq_true_iff.1 hicon).2
  · simp only [Bool.and_eq_true, decide_eq_true_eq] at hbox
    exact hbox.1.1

theorem not_isReplaced_img (options : ImageOptions) (attrs : Attributes) (children : List Node)
    (ns : Option String) : isReplaced options (.element "img" attrs children ns) = false := by
  rw [← Bool.not_eq_true]
  intro h
  exact absurd (eq_div_of_isReplaced h) (by decide)

/-! ## One node -/

theorem replaceNode_of_not_isReplaced (h : isReplaced options (.element tag attrs children ns) = false) :
    replaceNode options (.element tag attrs children ns) =
      (fun below => .element tag attrs below ns) <$> replaceBelow options children := by
  rw [isReplaced_element, Bool.or_eq_false_iff] at h
  rw [replaceNode, h.1, h.2]
  rfl

theorem exists_img_of_isReplaced (h : isReplaced options (.element tag attrs children ns) = true)
    (hm : replaceNode options (.element tag attrs children ns) = .ok m) :
    ∃ attrs', m = .element "img" attrs' [] ns := by
  rw [replaceNode] at hm
  split at hm
  · obtain ⟨attrs', -, hm⟩ := except_bind_eq_ok.1 hm
    exact ⟨attrs', (Except.ok.inj hm).symm⟩
  · next hicon =>
    obtain ⟨below, -, hm⟩ := except_bind_eq_ok.1 hm
    rw [isReplaced_element, Bool.eq_false_iff.2 hicon, Bool.false_or] at h
    rw [if_pos h] at hm
    exact ⟨_, (Except.ok.inj hm).symm⟩

/-- An element becomes an image if it is replaced, and else it gets what becomes of its children. -/
theorem replaceNode_element (hm : replaceNode options (.element tag attrs children ns) = .ok m) :
    (isReplaced options (.element tag attrs children ns) = true ∧
        ∃ attrs', m = .element "img" attrs' [] ns) ∨
      (isReplaced options (.element tag attrs children ns) = false ∧
        ∃ below, replaceBelow options children = .ok below ∧ m = .element tag attrs below ns) := by
  cases h : isReplaced options (.element tag attrs children ns) with
  | true => exact .inl ⟨rfl, exists_img_of_isReplaced h hm⟩
  | false =>
    rw [replaceNode_of_not_isReplaced h] at hm
    obtain ⟨below, hbelow, rfl⟩ := except_map_eq_ok.1 hm
    exact .inr ⟨rfl, below, hbelow, rfl⟩

/-! ## Children -/

theorem forall₂_replaceBelow (h : replaceBelow options cs = .ok ds) :
    List.Forall₂ (fun c d => replaceNode options c = .ok d) cs ds := by
  induction cs generalizing ds with
  | nil =>
    obtain rfl := Except.ok.inj h
    exact .nil
  | cons c cs ih =>
    obtain ⟨first, hfirst, h⟩ := except_bind_eq_ok.1 h
    obtain ⟨rest, hrest, h⟩ := except_bind_eq_ok.1 h
    obtain rfl := Except.ok.inj h
    exact .cons hfirst (ih hrest)

theorem isContent_replaceNode (h : replaceNode options n = .ok m) : isContent m = isContent n := by
  cases n with
  | element tag attrs children ns =>
    rcases replaceNode_element h with ⟨-, attrs', rfl⟩ | ⟨-, below, -, rfl⟩
    · rfl
    · rfl
  | text value =>
    obtain rfl := Except.ok.inj h
    rfl
  | comment data =>
    obtain rfl := Except.ok.inj h
    rfl

/-- An image is content as the element was that it is in the place of. -/
theorem hasContent_replaceBelow (h : replaceBelow options cs = .ok ds) : hasContent ds = hasContent cs := by
  have hall := forall₂_replaceBelow h
  clear h
  induction hall with
  | nil => rfl
  | cons hfirst _ ih =>
    rw [hasContent_eq, hasContent_eq] at ih ⊢
    rw [List.any_cons, List.any_cons, isContent_replaceNode hfirst, ih]

theorem boxPlacings_replaceNode (h : replaceNode options n = .ok m) :
    boxPlacings [m] = if isReplaced options n then [] else boxPlacings [n] := by
  cases n with
  | element tag attrs children ns =>
    rcases replaceNode_element h with ⟨hreplaced, attrs', rfl⟩ | ⟨hkept, below, -, rfl⟩
    · rw [hreplaced]
      rfl
    · rw [hkept, if_neg Bool.false_ne_true]
      by_cases hbox : tag = "div"
      · simp [boxPlacings, isBox, isPlacedBox, hbox]
      · simp [boxPlacings, isBox, hbox]
  | text value =>
    obtain rfl := Except.ok.inj h
    rw [isReplaced_text]
    rfl
  | comment data =>
    obtain rfl := Except.ok.inj h
    rw [isReplaced_comment]
    rfl

/-- The boxes afterwards are those that are not replaced, placed as they were. -/
theorem boxPlacings_replaceBelow (h : replaceBelow options cs = .ok ds) :
    boxPlacings ds = boxPlacings (cs.filter fun c => !isReplaced options c) := by
  have hall := forall₂_replaceBelow h
  clear h
  induction hall with
  | nil => rfl
  | @cons c d cs ds hfirst _ ih =>
    rw [boxPlacings_cons, boxPlacings_replaceNode hfirst, ih, List.filter_cons]
    cases isReplaced options c with
    | true => rfl
    | false => exact (boxPlacings_cons c _).symm

/-! ## What is left to replace -/

/-- Whether an element is no icon but is one without the children that are replaced. -/
def becomesIcon (options : ImageOptions) : Node → Bool
  | .element tag attrs children _ =>
    !isIcon tag attrs children && isIcon tag attrs (children.filter fun c => !isReplaced options c)
  | .text _ => false
  | .comment _ => false

/-- An element that is in no icon and becomes one itself when what is in it is replaced. -/
structure IsLateIcon (options : ImageOptions) (o : Occurrence) : Prop where
  enabled : options.icons = true
  outside : ∀ n ∈ o.around, isIconNode n = false
  late : becomesIcon options o.node = true

instance (options : ImageOptions) : DecidablePred (IsLateIcon options) := fun o =>
  decidable_of_iff
    (options.icons = true ∧ (∀ n ∈ o.around, isIconNode n = false) ∧ becomesIcon options o.node = true)
    ⟨fun h => ⟨h.1, h.2.1, h.2.2⟩, fun h => ⟨h.enabled, h.outside, h.late⟩⟩

theorem isElement_of_becomesIcon (h : becomesIcon options n = true) : n.isElement = true := by
  cases n with
  | element tag attrs children ns => rfl
  | text value => cases h
  | comment data => cases h

theorem hasContent_of_becomesIcon (h : becomesIcon options (.element tag attrs children ns) = true) :
    hasContent children = true := by
  rw [becomesIcon, Bool.and_eq_true] at h
  obtain ⟨c, hc, hbox⟩ := exists_isBox_of_isIcon h.2
  have hmem : c ∈ nodesAll children := mem_nodesAll.2 ⟨c, (List.mem_filter.1 hc).1, self_mem_nodes c⟩
  exact hasContent_of_isElement hmem (isElement_of_isBox hbox)

/-- Neither what is replaced nor anything in it is a late icon. -/
theorem not_isLateIcon_of_isReplaced {around : List Node} {o : Occurrence}
    (h : isReplaced options (.element tag attrs children ns) = true)
    (ho : o ∈ occurrences around (.element tag attrs children ns)) : ¬IsLateIcon options o := by
  intro hlate
  rw [isReplaced_element, Bool.or_eq_true] at h
  rw [occurrences, List.mem_cons] at ho
  rcases h with hicon | hbox
  · have hself : isIconNode (.element tag attrs children ns) = true := (Bool.and_eq_true_iff.1 hicon).2
    rcases ho with rfl | ho
    · have hnot := (Bool.and_eq_true_iff.1 hlate.late).1
      rw [Bool.not_eq_true', ← Bool.not_eq_true] at hnot
      exact hnot hself
    · have hmem := (around_suffix_of_mem_occurrencesAll ho).subset List.mem_cons_self
      rw [hlate.outside _ hmem] at hself
      cases hself
  · have hempty : hasContent children = false := by
      simp only [Bool.and_eq_true, Bool.not_eq_true'] at hbox
      exact hbox.2
    have hcontent : hasContent children = true := by
      rcases ho with rfl | ho
      · exact hasContent_of_becomesIcon hlate.late
      · have hmem : o.node ∈ nodesAll children := by
          rw [← map_node_occurrencesAll]
          exact List.mem_map_of_mem ho
        exact hasContent_of_isElement hmem (isElement_of_becomesIcon hlate.late)
    rw [hempty] at hcontent
    cases hcontent

/-- An element that is not replaced is an icon afterwards exactly if it is a late one. -/
theorem detects_of_kept {around below : List Node} (hfree : ∀ n ∈ around, detects options n = false)
    (hkept : isReplaced options (.element tag attrs children ns) = false)
    (hbelow : replaceBelow options children = .ok below) :
    detects options (.element tag attrs below ns) = true ↔
      IsLateIcon options ⟨around, .element tag attrs children ns⟩ := by
  have hlate (hicons : options.icons = true) : isIconNode (.element tag attrs below ns) =
      becomesIcon options (.element tag attrs children ns) := by
    rw [isReplaced_element, hicons, Bool.true_and, Bool.or_eq_false_iff] at hkept
    rw [isIconNode, becomesIcon, hkept.1, Bool.not_false, Bool.true_and]
    exact isIcon_eq_of_boxPlacings (boxPlacings_replaceBelow hbelow) tag attrs
  rw [detects, Bool.and_eq_true]
  constructor
  · rintro ⟨hicons, hicon⟩
    refine ⟨hicons, fun n hn => ?_, hlate hicons ▸ hicon⟩
    have hfree := hfree n hn
    rwa [detects, hicons, Bool.true_and] at hfree
  · intro h
    exact ⟨h.enabled, hlate h.enabled ▸ h.late⟩

end

mutual

theorem not_isEmptyBox_of_mem_replaceNode {options : ImageOptions} : ∀ {n m : Node},
    replaceNode options n = .ok m → ∀ k ∈ m.nodes, isEmptyBox options k = false
  | .element tag attrs children ns, m, h => by
    rcases replaceNode_element h with ⟨-, attrs', rfl⟩ | ⟨hkept, below, hbelow, rfl⟩
    · rw [forall_nodes_element]
      refine ⟨?_, fun _ hk => nomatch hk⟩
      have himg := not_isReplaced_img options attrs' [] ns
      exact (Bool.or_eq_false_iff.1 himg).2
    · rw [forall_nodes_element]
      refine ⟨?_, not_isEmptyBox_of_mem_replaceBelow hbelow⟩
      rw [isEmptyBox, hasContent_replaceBelow hbelow]
      exact (Bool.or_eq_false_iff.1 hkept).2
  | .text value, m, h => by
    obtain rfl := Except.ok.inj h
    exact forall_nodes_text.2 rfl
  | .comment data, m, h => by
    obtain rfl := Except.ok.inj h
    exact forall_nodes_comment.2 rfl

/-- No empty box is left. -/
theorem not_isEmptyBox_of_mem_replaceBelow {options : ImageOptions} : ∀ {cs ds : List Node},
    replaceBelow options cs = .ok ds → ∀ k ∈ nodesAll ds, isEmptyBox options k = false
  | [], ds, h => by
    obtain rfl := Except.ok.inj h
    exact fun _ hk => nomatch hk
  | c :: cs, ds, h => by
    obtain ⟨first, hfirst, h⟩ := except_bind_eq_ok.1 h
    obtain ⟨rest, hrest, h⟩ := except_bind_eq_ok.1 h
    obtain rfl := Except.ok.inj h
    exact forall_nodesAll_cons.2
      ⟨not_isEmptyBox_of_mem_replaceNode hfirst, not_isEmptyBox_of_mem_replaceBelow hrest⟩

end

mutual

theorem replaceNode_eq_self_iff {options : ImageOptions} : ∀ n : Node,
    replaceNode options n = .ok n ↔ ∀ k ∈ n.nodes, isReplaced options k = false
  | .element tag attrs children ns => by
    rw [forall_nodes_element]
    cases hreplaced : isReplaced options (.element tag attrs children ns) with
    | true =>
      refine iff_of_false (fun h => ?_) fun h => nomatch h.1
      obtain ⟨attrs', himg⟩ := exists_img_of_isReplaced hreplaced h
      rw [himg, not_isReplaced_img] at hreplaced
      cases hreplaced
    | false =>
      rw [replaceNode_of_not_isReplaced hreplaced, except_map_eq_ok, ← replaceBelow_eq_self_iff children]
      simp
  | .text value => iff_of_true rfl (forall_nodes_text.2 (isReplaced_text options value))
  | .comment data => iff_of_true rfl (forall_nodes_comment.2 (isReplaced_comment options data))

/-- The replacement leaves a tree as it is exactly if nothing in it is an icon or an empty box. -/
theorem replaceBelow_eq_self_iff {options : ImageOptions} : ∀ cs : List Node,
    replaceBelow options cs = .ok cs ↔ ∀ k ∈ nodesAll cs, isReplaced options k = false
  | [] => iff_of_true rfl fun _ hk => nomatch hk
  | c :: cs => by
    rw [forall_nodesAll_cons, ← replaceNode_eq_self_iff c, ← replaceBelow_eq_self_iff cs, replaceBelow]
    simp [except_bind_eq_ok, pure, Except.pure]

end

mutual

theorem forall₂_lateIcons_replaceNode {options : ImageOptions} {around : List Node}
    (hfree : ∀ n ∈ around, detects options n = false) : ∀ {n m : Node}, replaceNode options n = .ok m →
      List.Forall₂ (fun o k => replaceNode options o.node = .ok k)
        ((occurrences around n).filter fun o => IsLateIcon options o) (m.nodes.filter (detects options))
  | .element tag attrs children ns, m, h => by
    rcases replaceNode_element h with ⟨hreplaced, attrs', rfl⟩ | ⟨hkept, below, hbelow, rfl⟩
    · have hnone : (occurrences around (.element tag attrs children ns)).filter
          (fun o => IsLateIcon options o) = [] := by
        rw [List.filter_eq_nil_iff]
        intro o ho hlate
        exact not_isLateIcon_of_isReplaced hreplaced ho (of_decide_eq_true hlate)
      have himg : detects options (.element "img" attrs' [] ns) = false :=
        (Bool.or_eq_false_iff.1 (not_isReplaced_img options attrs' [] ns)).1
      rw [hnone, nodes, List.filter_cons_of_neg (Bool.eq_false_iff.1 himg)]
      exact .nil
    · have hself : detects options (.element tag attrs children ns) = false :=
        (Bool.or_eq_false_iff.1 hkept).1
      have ih := forall₂_lateIcons_replaceBelow (List.forall_mem_cons.2 ⟨hself, hfree⟩) hbelow
      have hiff := detects_of_kept hfree hkept hbelow
      rw [occurrences, nodes]
      by_cases hlate : IsLateIcon options ⟨around, .element tag attrs children ns⟩
      · rw [List.filter_cons, if_pos (decide_eq_true hlate), List.filter_cons, if_pos (hiff.2 hlate)]
        exact .cons h ih
      · rw [List.filter_cons, if_neg fun htrue => hlate (of_decide_eq_true htrue), List.filter_cons,
          if_neg fun htrue => hlate (hiff.1 htrue)]
        exact ih
  | .text value, m, h => by
    obtain rfl := Except.ok.inj h
    have hnot : ¬IsLateIcon options ⟨around, .text value⟩ := fun hlate => nomatch hlate.late
    simp [occurrences, nodes, hnot, detects, isIconNode]
  | .comment data, m, h => by
    obtain rfl := Except.ok.inj h
    have hnot : ¬IsLateIcon options ⟨around, .comment data⟩ := fun hlate => nomatch hlate.late
    simp [occurrences, nodes, hnot, detects, isIconNode]

/-- The icons that are left are the late ones, in document order: each is what has become of its node. -/
theorem forall₂_lateIcons_replaceBelow {options : ImageOptions} {around : List Node}
    (hfree : ∀ n ∈ around, detects options n = false) : ∀ {cs ds : List Node},
      replaceBelow options cs = .ok ds →
      List.Forall₂ (fun o k => replaceNode options o.node = .ok k)
        ((occurrencesAll around cs).filter fun o => IsLateIcon options o)
        ((nodesAll ds).filter (detects options))
  | [], ds, h => by
    obtain rfl := Except.ok.inj h
    exact .nil
  | c :: cs, ds, h => by
    obtain ⟨first, hfirst, h⟩ := except_bind_eq_ok.1 h
    obtain ⟨rest, hrest, h⟩ := except_bind_eq_ok.1 h
    obtain rfl := Except.ok.inj h
    rw [occurrencesAll, nodesAll, List.filter_append, List.filter_append]
    exact List.rel_append (forall₂_lateIcons_replaceNode hfree hfirst)
      (forall₂_lateIcons_replaceBelow hfree hrest)

end

/-- The late icons of a tree where they stand. -/
def lateIcons (options : ImageOptions) (cs : List Node) : List Occurrence :=
  (occurrencesAll [] cs).filter fun o => IsLateIcon options o

section

variable {options : ImageOptions} {cs ds : List Node}

theorem lateIcons_of_disabled (h : options.icons = false) (cs : List Node) : lateIcons options cs = [] := by
  rw [lateIcons, List.filter_eq_nil_iff]
  intro o _ hlate
  have henabled := (of_decide_eq_true hlate).enabled
  rw [h] at henabled
  cases henabled

theorem forall₂_lateIcons (h : replaceBelow options cs = .ok ds) :
    List.Forall₂ (fun o k => replaceNode options o.node = .ok k) (lateIcons options cs)
      ((nodesAll ds).filter (detects options)) :=
  forall₂_lateIcons_replaceBelow (List.forall_mem_nil _) h

theorem forall_not_detects_iff (h : replaceBelow options cs = .ok ds) :
    (∀ k ∈ nodesAll ds, detects options k = false) ↔ lateIcons options cs = [] := by
  have hlength := (forall₂_lateIcons h).length_eq
  rw [← List.length_eq_zero_iff, hlength, List.length_eq_zero_iff, List.filter_eq_nil_iff]
  simp only [Bool.not_eq_true]

/-- A second replacement leaves the tree as it is exactly if there is no late icon. -/
theorem replaceBelow_eq_self_iff_of_replaced (h : replaceBelow options cs = .ok ds) :
    replaceBelow options ds = .ok ds ↔ lateIcons options cs = [] := by
  rw [replaceBelow_eq_self_iff, ← forall_not_detects_iff h]
  refine forall₂_congr fun k hk => ?_
  rw [isReplaced, not_isEmptyBox_of_mem_replaceBelow h k hk, Bool.or_false]

end

end MarkupCleaner.Image
