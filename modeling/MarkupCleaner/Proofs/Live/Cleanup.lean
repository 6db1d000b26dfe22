import Mathlib.Data.List.Nodup
import MarkupCleaner.Proofs.Cleanup.WrittenTexts
import MarkupCleaner.Proofs.Live.Edit
import MarkupCleaner.Proofs.Live.Thinned

/-!
# What a cleanup in place keeps

A cleanup in place does to a live document what the cleanup does to its plain tree. It makes no node,
and it keeps all texts that are not blank and all elements that are no wrappers. The nodes that are left
stand in their old order, and one of them is above another exactly if it was before.
-/

namespace MarkupCleaner.Live

open LiveNode Cleanup

/-- A pass edits the nodes, removes empty ones, or promotes children; whatever all three do, every pass
    does. -/
theorem applyPass_cases {motive : List LiveNode → Prop} {holder : NodeId} {slots : List LiveNode}
    (hedit : ∀ {σ : Type} (e : Edit σ) (s : σ), motive (editBelow e s slots))
    (hpruned : motive (pruned slots)) (hflattened : motive (flattenedAll holder slots)) (pass : Pass) :
    motive (applyPass holder pass slots) := by
  cases pass with
  | normalizeWhitespace => exact hedit whitespaceEdit false
  | removeEmpty =>
    show motive (removeEmpty slots)
    rwa [removeEmpty_eq_pruned]
  | semanticTags => exact hedit semanticEdit ()
  | flattenWrappers =>
    show motive (flattenWrappers holder slots)
    rwa [flattenWrappers_eq_flattenedAll]
  | duplicateAttributes => exact hedit duplicateEdit ()
  | nesting => exact hedit nestingEdit false

/-! ## The plain tree -/

theorem plainAll_applyPass (holder : NodeId) (pass : Pass) (slots : List LiveNode) :
    plainAll (applyPass holder pass slots) = pass.apply (plainAll slots) := by
  cases pass with
  | normalizeWhitespace =>
    show plainAll (editBelow whitespaceEdit false slots) = _
    rw [plainAll_editBelow, Edit.onAll_whitespaceEdit]
    rfl
  | removeEmpty =>
    show plainAll (removeEmpty slots) = _
    rw [removeEmpty_eq_pruned, plainAll_pruned]
    rfl
  | semanticTags =>
    show plainAll (editBelow semanticEdit () slots) = _
    rw [plainAll_editBelow, Edit.onAll_semanticEdit]
    rfl
  | flattenWrappers =>
    show plainAll (flattenWrappers holder slots) = _
    rw [flattenWrappers_eq_flattenedAll, plainAll_flattenedAll]
    rfl
  | duplicateAttributes =>
    show plainAll (editBelow duplicateEdit () slots) = _
    rw [plainAll_editBelow, Edit.onAll_duplicateEdit]
    rfl
  | nesting =>
    show plainAll (editBelow nestingEdit false slots) = _
    rw [plainAll_editBelow, Edit.onAll_nestingEdit]
    rfl

/-- Passes in place, one after the other. -/
def applyPasses (holder : NodeId) (passes : List Pass) (slots : List LiveNode) : List LiveNode :=
  passes.foldl (fun slots pass => applyPass holder pass slots) slots

theorem plainAll_applyPasses (holder : NodeId) (passes : List Pass) (slots : List LiveNode) :
    plainAll (applyPasses holder passes slots)
      = passes.foldl (fun tree pass => pass.apply tree) (plainAll slots) := by
  induction passes generalizing slots with
  | nil => rfl
  | cons pass passes ih =>
    rw [List.foldl_cons, ← plainAll_applyPass holder]
    exact ih _

/-! ## Order and ancestors -/

/-- What is left of some nodes: no other nodes, in the same order and below the same ones. -/
structure Keeps (before after : List LiveNode) : Prop where
  ids : (idsAll after).Sublist (idsAll before)
  ancestor : ∀ a ∈ idsAll after, ∀ b ∈ idsAll after,
    (IsAncestor after a b ↔ IsAncestor before a b)

theorem Keeps.refl (ns : List LiveNode) : Keeps ns ns :=
  ⟨List.Sublist.refl _, fun _ _ _ _ => Iff.rfl⟩

theorem Keeps.trans {ns ms ks : List LiveNode} (h : Keeps ns ms) (h' : Keeps ms ks) : Keeps ns ks := by
  refine ⟨h'.ids.trans h.ids, fun a ha b hb => ?_⟩
  rw [h'.ancestor a ha b hb, h.ancestor a (h'.ids.subset ha) b (h'.ids.subset hb)]

theorem Thinned.keeps {ns ms : List LiveNode} (h : Thinned ns ms) (hdistinct : (idsAll ns).Nodup) :
    Keeps ns ms :=
  ⟨h.idsAll_sublist, fun _ ha _ hb => ⟨h.isAncestor, h.isAncestor_left hdistinct ha hb⟩⟩

theorem keeps_editBelow {σ : Type} (e : Edit σ) (s : σ) (ns : List LiveNode) :
    Keeps ns (editBelow e s ns) := by
  have hids := idsAll_editBelow e s ns
  exact ⟨hids ▸ List.Sublist.refl _, fun _ _ _ _ => isAncestor_editBelow e s ns⟩

theorem keeps_applyPass (holder : NodeId) (pass : Pass) {slots : List LiveNode}
    (hdistinct : (idsAll slots).Nodup) : Keeps slots (applyPass holder pass slots) :=
  applyPass_cases (fun e s => keeps_editBelow e s slots) ((thinned_pruned slots).keeps hdistinct)
    ((thinned_flattenedAll holder slots).keeps hdistinct) pass

theorem keeps_applyPasses (holder : NodeId) (passes : List Pass) {slots : List LiveNode}
    (hdistinct : (idsAll slots).Nodup) : Keeps slots (applyPasses holder passes slots) := by
  induction passes generalizing slots with
  | nil => exact Keeps.refl slots
  | cons pass passes ih =>
    have hpass := keeps_applyPass holder pass hdistinct
    exact hpass.trans (ih (hpass.ids.nodup hdistinct))

/-- Whether one node comes before another one in document order. -/
def Precedes (ns : List LiveNode) (a b : NodeId) : Prop := [a, b].Sublist (idsAll ns)

/-- In a list without repetitions the order of two elements can be read off any sublist that has
    them. -/
theorem pair_sublist_iff {l l' : List NodeId} (h : l'.Sublist l) (hdistinct : l.Nodup) {a b : NodeId}
    (ha : a ∈ l') (hb : b ∈ l') : [a, b].Sublist l' ↔ [a, b].Sublist l := by
  refine ⟨fun hpair => hpair.trans h, fun hpair => ?_⟩
  induction h with
  | slnil => exact hpair
  | @cons l' l x h ih =>
    rw [List.nodup_cons] at hdistinct
    refine ih hdistinct.2 ha hb ?_
    cases hpair with
    | cons _ hrest => exact hrest
    | cons_cons _ _ => exact absurd (h.subset ha) hdistinct.1
  | @cons_cons l' l x h ih =>
    rw [List.nodup_cons] at hdistinct
    cases hpair with
    | cons _ hrest =>
      have hmem := hrest.subset
      have hxa : a ≠ x := fun heq => hdistinct.1 (heq ▸ hmem List.mem_cons_self)
      have hxb : b ≠ x := fun heq => hdistinct.1 (heq ▸ hmem (by simp))
      exact (ih hdistinct.2 ((List.mem_cons.1 ha).resolve_left hxa)
        ((List.mem_cons.1 hb).resolve_left hxb) hrest).cons _
    | cons_cons _ hrest =>
      have hxb : b ≠ a := fun heq => hdistinct.1 (heq ▸ hrest.subset List.mem_cons_self)
      exact (List.singleton_sublist.2 ((List.mem_cons.1 hb).resolve_left hxb)).cons_cons _

theorem Keeps.precedes_iff {ns ms : List LiveNode} (h : Keeps ns ms) (hdistinct : (idsAll ns).Nodup)
    {a b : NodeId} (ha : a ∈ idsAll ms) (hb : b ∈ idsAll ms) : Precedes ms a b ↔ Precedes ns a b :=
  pair_sublist_iff h.ids hdistinct ha hb

/-! ## Elements -/

/-- Whether a node is an element that is no wrapper. -/
def IsProper (n : LiveNode) : Prop := ∃ tag, n.tag? = some tag ∧ isWrapper tag = false

theorem Thinned.exists_proper {ns ms : List LiveNode} (h : Thinned ns ms) {n : LiveNode}
    (hn : n ∈ nodesAll ns) (hproper : IsProper n) : ∃ m ∈ nodesAll ms, m.id = n.id ∧ IsProper m := by
  obtain ⟨tag, htag, hwrapper⟩ := hproper
  obtain ⟨m, hm, hid, hkept⟩ := h.exists_element hn htag hwrapper
  exact ⟨m, hm, hid, tag, hkept, hwrapper⟩

/-- An edit that makes no wrapper of another element. -/
theorem exists_proper_editBelow {σ : Type} {e : Edit σ}
    (htag : ∀ s tag attrs, isWrapper tag = false → isWrapper (e.tag s tag attrs) = false) (s : σ)
    {ns : List LiveNode} {n : LiveNode} (hn : n ∈ nodesAll ns) (hproper : IsProper n) :
    ∃ m ∈ nodesAll (editBelow e s ns), m.id = n.id ∧ IsProper m := by
  obtain ⟨s', hs'⟩ := exists_mem_nodesAll_editBelow e s ns n hn
  refine ⟨_, hs', id_editNode e s' n, ?_⟩
  obtain ⟨tag, hn, hwrapper⟩ := hproper
  cases n with
  | element link tag attrs children space =>
    obtain rfl := Option.some.inj hn
    exact ⟨_, rfl, htag s' tag attrs hwrapper⟩
  | text link value => cases hn
  | comment link data => cases hn

theorem exists_proper_applyPass (holder : NodeId) {pass : Pass} (hpass : pass ≠ .nesting)
    {slots : List LiveNode} {n : LiveNode} (hn : n ∈ nodesAll slots) (hproper : IsProper n) :
    ∃ m ∈ nodesAll (applyPass holder pass slots), m.id = n.id ∧ IsProper m := by
  cases pass with
  | normalizeWhitespace =>
    exact exists_proper_editBelow (e := whitespaceEdit) (fun _ _ _ h => h) false hn hproper
  | removeEmpty =>
    show ∃ m ∈ nodesAll (removeEmpty slots), _
    rw [removeEmpty_eq_pruned]
    exact (thinned_pruned slots).exists_proper hn hproper
  | semanticTags =>
    refine exists_proper_editBelow (e := semanticEdit) (fun _ tag attrs h => ?_) () hn hproper
    rw [← Bool.not_eq_true] at h ⊢
    exact fun hnew => h (isWrapper_of_semanticForm hnew)
  | flattenWrappers =>
    show ∃ m ∈ nodesAll (flattenWrappers holder slots), _
    rw [flattenWrappers_eq_flattenedAll]
    exact (thinned_flattenedAll holder slots).exists_proper hn hproper
  | duplicateAttributes =>
    exact exists_proper_editBelow (e := duplicateEdit) (fun _ _ _ h => h) () hn hproper
  | nesting => exact absurd rfl hpass

theorem exists_proper_applyPasses (holder : NodeId) {passes : List Pass} (hpasses : .nesting ∉ passes)
    {slots : List LiveNode} {n : LiveNode} (hn : n ∈ nodesAll slots) (hproper : IsProper n) :
    ∃ m ∈ nodesAll (applyPasses holder passes slots), m.id = n.id ∧ IsProper m := by
  induction passes generalizing slots n with
  | nil => exact ⟨n, hn, rfl, hproper⟩
  | cons pass passes ih =>
    rw [List.mem_cons, not_or] at hpasses
    obtain ⟨m, hm, hid, hm'⟩ := exists_proper_applyPass holder (Ne.symm hpasses.1) hn hproper
    obtain ⟨k, hk, hid', hk'⟩ := ih hpasses.2 hm hm'
    exact ⟨k, hk, hid'.trans hid, hk'⟩

/-! ## Texts -/

theorem Thinned.writtenTexts {ns ms : List LiveNode} (h : Thinned ns ms) (kept : Bool) :
    writtenTexts kept (plainAll ms) = writtenTexts kept (plainAll ns) := by
  induction h generalizing kept with
  | nil => rfl
  | element _ _ _ ihInner ihLater =>
    rw [plainAll, plainAll, plain, plain, Cleanup.writtenTexts, Cleanup.writtenTexts, writtenIn,
      writtenIn, ihInner, ihLater]
  | text _ _ ih => rw [plainAll, plainAll, Cleanup.writtenTexts, Cleanup.writtenTexts, ih]; rfl
  | comment _ _ ih => rw [plainAll, plainAll, Cleanup.writtenTexts, Cleanup.writtenTexts, ih]; rfl
  | blankGone blank _ ih =>
    rw [plainAll, plain, Cleanup.writtenTexts, writtenIn, if_pos blank, ih]
    rfl
  | commentGone _ ih =>
    rw [plainAll, plain, Cleanup.writtenTexts, ih]
    rfl
  | unwrapped wrapper _ ih =>
    rw [ih, plainAll_append, writtenTexts_append, plainAll, plain, Cleanup.writtenTexts, writtenIn,
      keepsWhitespace_of_isWrapper wrapper, Bool.or_false]

theorem writtenTexts_prune (kept : Bool) (ns : List LiveNode) :
    writtenTexts kept (prune (plainAll ns)) = writtenTexts kept (plainAll ns) := by
  rw [← plainAll_pruned]
  exact (thinned_pruned ns).writtenTexts kept

theorem writtenTexts_flattenBelow (kept : Bool) (ns : List LiveNode) :
    writtenTexts kept (flattenBelow (plainAll ns)) = writtenTexts kept (plainAll ns) := by
  rw [← plainAll_flattenedAll 0]
  exact (thinned_flattenedAll 0 ns).writtenTexts kept

/-- Only one pass does anything to the texts. -/
theorem writtenTexts_applyPass (holder : NodeId) {pass : Pass} (hpass : pass ≠ .normalizeWhitespace)
    (slots : List LiveNode) : writtenTexts false (plainAll (applyPass holder pass slots))
      = writtenTexts false (plainAll slots) := by
  rw [plainAll_applyPass]
  cases pass with
  | normalizeWhitespace => exact absurd rfl hpass
  | removeEmpty => exact writtenTexts_prune false slots
  | semanticTags => exact writtenTexts_semanticBelow false _
  | flattenWrappers => exact writtenTexts_flattenBelow false slots
  | duplicateAttributes => exact writtenTexts_distinctBelow false _
  | nesting => exact writtenTexts_nestBelow false false _

theorem writtenTexts_applyPasses (holder : NodeId) {passes : List Pass}
    (hpasses : .normalizeWhitespace ∉ passes) (slots : List LiveNode) :
    writtenTexts false (plainAll (applyPasses holder passes slots))
      = writtenTexts false (plainAll slots) := by
  induction passes generalizing slots with
  | nil => rfl
  | cons pass passes ih =>
    rw [List.mem_cons, not_or] at hpasses
    rw [← writtenTexts_applyPass holder (Ne.symm hpasses.1) slots]
    exact ih hpasses.2 _

/-! ## The whole cleanup -/

theorem applyPasses_append (holder : NodeId) (passes passes' : List Pass) (slots : List LiveNode) :
    applyPasses holder (passes ++ passes') slots
      = applyPasses holder passes' (applyPasses holder passes slots) := List.foldl_append

/-- The passes after the first one, as far as they are switched on. -/
def laterPasses (options : CleanupOptions) : List Pass :=
  [.removeEmpty, .semanticTags, .flattenWrappers, .duplicateAttributes, .nesting].filter
    (Pass.enabled options)

/-- The passes before the last one, as far as they are switched on. -/
def earlierPasses (options : CleanupOptions) : List Pass :=
  [.normalizeWhitespace, .removeEmpty, .semanticTags, .flattenWrappers, .duplicateAttributes].filter
    (Pass.enabled options)

theorem enabledPasses_eq_first (options : CleanupOptions) : enabledPasses options =
    [Pass.normalizeWhitespace].filter (Pass.enabled options) ++ laterPasses options :=
  List.filter_append [Pass.normalizeWhitespace] _

theorem enabledPasses_eq_last (options : CleanupOptions) : enabledPasses options =
    earlierPasses options ++ [Pass.nesting].filter (Pass.enabled options) :=
  List.filter_append
    [Pass.normalizeWhitespace, .removeEmpty, .semanticTags, .flattenWrappers, .duplicateAttributes] _

theorem cleanup_eq_applyPasses (options : CleanupOptions) (holder : NodeId) (slots : List LiveNode) :
    cleanup options holder slots = applyPasses holder (enabledPasses options) slots := rfl

theorem plainAll_cleanup (options : CleanupOptions) (holder : NodeId) (slots : List LiveNode) :
    plainAll (cleanup options holder slots) = MarkupCleaner.cleanup options (plainAll slots) :=
  plainAll_applyPasses holder (enabledPasses options) slots

theorem writtenTexts_cleanup (options : CleanupOptions) (holder : NodeId) (slots : List LiveNode) :
    writtenTexts false (plainAll (cleanup options holder slots))
      = (writtenTexts false (plainAll slots)).map
        (if options.normalizeWhitespace then WrittenText.collapsed else id) := by
  have hlater : .normalizeWhitespace ∉ laterPasses options := by
    intro hmem
    have := (List.mem_filter.1 hmem).1
    revert this
    decide
  rw [cleanup_eq_applyPasses, enabledPasses_eq_first, applyPasses_append,
    writtenTexts_applyPasses holder hlater]
  by_cases hnormalize : options.normalizeWhitespace = true
  · have hfirst : [Pass.normalizeWhitespace].filter (Pass.enabled options) = [.normalizeWhitespace] :=
      List.filter_cons_of_pos hnormalize
    rw [hfirst, if_pos hnormalize, plainAll_applyPasses]
    exact writtenTexts_normalizeBelow false (plainAll slots)
  · have hfirst : [Pass.normalizeWhitespace].filter (Pass.enabled options) = [] :=
      List.filter_cons_of_neg hnormalize
    rw [hfirst, if_neg hnormalize, List.map_id]
    rfl

theorem exists_element_cleanup (options : CleanupOptions) (holder : NodeId) {slots : List LiveNode}
    {n : LiveNode} (hn : n ∈ nodesAll slots) (hproper : IsProper n) :
    ∃ m ∈ nodesAll (cleanup options holder slots), m.id = n.id ∧ m.tag?.isSome = true := by
  have hearlier : .nesting ∉ earlierPasses options := by
    intro hmem
    have := (List.mem_filter.1 hmem).1
    revert this
    decide
  obtain ⟨m, hm, hid, tag, htag, -⟩ := exists_proper_applyPasses holder hearlier hn hproper
  rw [cleanup_eq_applyPasses, enabledPasses_eq_last, applyPasses_append]
  by_cases hnest : options.fixNesting = true
  · have hlast : [Pass.nesting].filter (Pass.enabled options) = [.nesting] :=
      List.filter_cons_of_pos hnest
    obtain ⟨s, hs⟩ := exists_mem_nodesAll_editBelow nestingEdit false _ m hm
    rw [hlast]
    refine ⟨_, hs, (id_editNode nestingEdit s m).trans hid, ?_⟩
    cases m with
    | element link tag attrs children space => rfl
    | text link value => cases htag
    | comment link data => cases htag
  · have hlast : [Pass.nesting].filter (Pass.enabled options) = [] :=
      List.filter_cons_of_neg hnest
    rw [hlast]
    exact ⟨m, hm, hid, by rw [htag]; rfl⟩

/-- What a cleanup keeps of the nodes below a holder. -/
structure KeepsContent (options : CleanupOptions) (before after : List LiveNode) : Prop where
  /-- The texts that are not blank, in their order, with white space collapsed where it is not kept. -/
  texts : writtenTexts false (plainAll after) = (writtenTexts false (plainAll before)).map
    (if options.normalizeWhitespace then WrittenText.collapsed else id)
  /-- No node is new and none occurs more often than before. -/
  nodes : (idsAll after).Sublist (idsAll before)
  /-- An element that is neither `div` nor `span` is left exactly once, as an element. -/
  elements : ∀ n ∈ nodesAll before, ∀ tag, n.tag? = some tag → isWrapper tag = false →
    (idsAll after).count n.id = 1 ∧ ∃ m ∈ nodesAll after, m.id = n.id ∧ m.tag?.isSome = true
  /-- Two nodes that are left are in their old order. -/
  order : ∀ a ∈ idsAll after, ∀ b ∈ idsAll after, (Precedes after a b ↔ Precedes before a b)
  /-- Of two nodes that are left, one is above the other exactly if it was before. -/
  ancestors : ∀ a ∈ idsAll after, ∀ b ∈ idsAll after,
    (IsAncestor after a b ↔ IsAncestor before a b)

theorem keepsContent_of_distinct (options : CleanupOptions) (holder : NodeId) {slots : List LiveNode}
    (hdistinct : (idsAll slots).Nodup) : KeepsContent options slots (cleanup options holder slots) := by
  have hkeeps := keeps_applyPasses holder (enabledPasses options) hdistinct
  refine ⟨writtenTexts_cleanup options holder slots, hkeeps.ids, ?_, ?_, hkeeps.ancestor⟩
  · intro n hn tag htag hwrapper
    obtain ⟨m, hm, hid, helement⟩ := exists_element_cleanup options holder hn ⟨tag, htag, hwrapper⟩
    refine ⟨?_, m, hm, hid, helement⟩
    refine List.nodup_iff_count_eq_one.1 (hkeeps.ids.nodup hdistinct) n.id ?_
    rw [← hid]
    exact id_mem_idsAll hm
  · intro a ha b hb
    exact hkeeps.precedes_iff hdistinct ha hb

/-- The cleanup in place of a new document gives the cleaned tree and keeps its content: the document
    has every node once, and what is said of identities is said of nodes. -/
theorem keepsContent_cleanup (options : CleanupOptions) (t : Fragment) :
    let d := LiveDocument.ofPlain t
    let after := cleanup options d.id d.children
    d.plain = t ∧ plainAll after = MarkupCleaner.cleanup options t ∧ (idsAll d.children).Nodup ∧
      KeepsContent options d.children after := by
  have hplain := LiveDocument.plain_ofPlain t
  have hdistinct := nodup_idsAll_ofPlain t
  refine ⟨hplain, ?_, hdistinct, keepsContent_of_distinct options _ hdistinct⟩
  rw [plainAll_cleanup]
  exact congrArg (MarkupCleaner.cleanup options) hplain

end MarkupCleaner.Live
