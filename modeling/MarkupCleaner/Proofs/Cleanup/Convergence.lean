import Mathlib.Logic.Function.Iterate
import MarkupCleaner.Cleanup.Pass
import MarkupCleaner.Proofs.Cleanup.Duplicate

/-!
# Cleaning up again and again

A tree is settled for a pass if the pass finds nothing to do. What the passes after it keep of this
decides what a second cleanup changes. Only the removal of empty nodes and the flattening of wrappers can
find something to do again, and when one of them does it leaves fewer nodes. So every further cleanup
either changes nothing or leaves fewer nodes, and at some point nothing changes any more.
-/

namespace MarkupCleaner

open Node Cleanup

namespace Cleanup.Pass

/-- A tree in which the pass finds nothing to do. -/
def IsSettled : Pass → Fragment → Prop
  | normalizeWhitespace, ns => normalizeBelow false ns = ns
  | removeEmpty, ns => ∀ n ∈ nodesAll ns, isHollow n = false
  | semanticTags, ns => ∀ n ∈ nodesAll ns, IsSemantic n
  | flattenWrappers, ns => ∀ n ∈ nodesAll ns, soleChild? n = none
  | duplicateAttributes, ns => ∀ n ∈ nodesAll ns, HasDistinctNames n
  | nesting, ns => nestBelow false ns = ns

theorem IsSettled.apply_eq_self {p : Pass} {ns : Fragment} (h : p.IsSettled ns) : p.apply ns = ns := by
  cases p with
  | normalizeWhitespace => exact h
  | removeEmpty => exact prune_eq_self ns h
  | semanticTags => exact semanticBelow_eq_self h
  | flattenWrappers => exact flattenBelow_eq_self ns h
  | duplicateAttributes => exact distinctBelow_eq_self h
  | nesting => exact h

/-- A pass leaves a tree that is settled for it. -/
theorem isSettled_apply (p : Pass) (ns : Fragment) : p.IsSettled (p.apply ns) := by
  cases p with
  | normalizeWhitespace => exact normalizeBelow_normalizeBelow false ns
  | removeEmpty => exact not_hollow_of_mem_prune ns
  | semanticTags => exact isSemantic_of_mem_semanticBelow ns
  | flattenWrappers => exact soleChild?_of_mem_flattenBelow ns
  | duplicateAttributes => exact hasDistinctNames_of_mem_distinctBelow ns
  | nesting => exact nestBelow_nestBelow false ns

/-- Whether a pass takes nodes out of the tree. -/
def removesNodes : Pass → Bool
  | removeEmpty => true
  | flattenWrappers => true
  | _ => false

theorem apply_eq_self_or_sizeAll_lt {p : Pass} (h : p.removesNodes = true) (ns : Fragment) :
    p.apply ns = ns ∨ sizeAll (p.apply ns) < sizeAll ns := by
  cases p with
  | removeEmpty => exact prune_eq_self_or_sizeAll_lt ns
  | flattenWrappers => exact flattenBelow_eq_self_or_sizeAll_lt ns
  | normalizeWhitespace | semanticTags | duplicateAttributes | nesting => cases h

/-- No pass adds nodes. -/
theorem sizeAll_apply_le (p : Pass) (ns : Fragment) : sizeAll (p.apply ns) ≤ sizeAll ns := by
  cases p with
  | normalizeWhitespace => exact Nat.le_of_eq (sizeAll_normalizeBelow false ns)
  | removeEmpty => exact sizeAll_le_of_eq_or_lt (apply_eq_self_or_sizeAll_lt rfl ns)
  | semanticTags => exact Nat.le_of_eq (sizeAll_semanticBelow ns)
  | flattenWrappers => exact sizeAll_le_of_eq_or_lt (apply_eq_self_or_sizeAll_lt rfl ns)
  | duplicateAttributes => exact Nat.le_of_eq (sizeAll_distinctBelow ns)
  | nesting => exact Nat.le_of_eq (sizeAll_nestBelow false ns)

/-! ## What the passes keep for one another -/

/-- White space stays normal whatever runs next. -/
theorem normalizeWhitespace_isSettled_apply (q : Pass) {ns : Fragment}
    (h : normalizeWhitespace.IsSettled ns) : normalizeWhitespace.IsSettled (q.apply ns) := by
  rw [IsSettled] at h ⊢
  cases q with
  | normalizeWhitespace => exact normalizeBelow_normalizeBelow false ns
  | removeEmpty => exact (normalizeBelow_prune false ns).trans (congrArg prune h)
  | semanticTags => exact (normalizeBelow_semanticBelow false ns).trans (congrArg semanticBelow h)
  | flattenWrappers => exact (normalizeBelow_flattenBelow false ns).trans (congrArg flattenBelow h)
  | duplicateAttributes => exact (normalizeBelow_distinctBelow false ns).trans (congrArg distinctBelow h)
  | nesting => exact (normalizeBelow_nestBelow false false ns).trans (congrArg (nestBelow false) h)

/-- A `div` that keeps its tag keeps it whatever runs next. -/
theorem semanticTags_isSettled_apply (q : Pass) {ns : Fragment} (h : semanticTags.IsSettled ns) :
    semanticTags.IsSettled (q.apply ns) := by
  cases q with
  | normalizeWhitespace => exact onElement_of_mem_normalizeBelow false h
  | removeEmpty => exact of_mem_prune (ignoresChildren_onElement _) h
  | semanticTags => exact isSemantic_of_mem_semanticBelow ns
  | flattenWrappers => exact of_mem_flattenBelow (ignoresChildren_onElement _) h
  | duplicateAttributes => exact isSemantic_of_mem_distinctBelow h
  | nesting => exact isSemantic_of_mem_nestBelow h false

/-- Attribute names stay distinct whatever runs next. -/
theorem duplicateAttributes_isSettled_apply (q : Pass) {ns : Fragment}
    (h : duplicateAttributes.IsSettled ns) : duplicateAttributes.IsSettled (q.apply ns) := by
  cases q with
  | normalizeWhitespace => exact onElement_of_mem_normalizeBelow false h
  | removeEmpty => exact of_mem_prune (ignoresChildren_onElement _) h
  | semanticTags => exact hasDistinctNames_of_mem_semanticBelow h
  | flattenWrappers => exact of_mem_flattenBelow (ignoresChildren_onElement _) h
  | duplicateAttributes => exact hasDistinctNames_of_mem_distinctBelow ns
  | nesting => exact hasDistinctNames_of_mem_nestBelow h false

/-- Only the mending of nesting makes hollow nodes. -/
theorem removeEmpty_isSettled_apply {q : Pass} (hq : q ≠ nesting) {ns : Fragment}
    (h : removeEmpty.IsSettled ns) : removeEmpty.IsSettled (q.apply ns) := by
  cases q with
  | normalizeWhitespace => exact not_hollow_of_mem_normalizeBelow false h
  | removeEmpty => exact not_hollow_of_mem_prune ns
  | semanticTags => exact not_hollow_of_mem_semanticBelow h
  | flattenWrappers => exact not_hollow_of_mem_flattenBelow h
  | duplicateAttributes => exact not_hollow_of_mem_distinctBelow h
  | nesting => exact absurd rfl hq

/-! ## Runs of passes -/

/-- Runs passes one after the other. -/
def applyAll (passes : List Pass) (ns : Fragment) : Fragment :=
  passes.foldl (fun tree pass => pass.apply tree) ns

theorem applyAll_cons (p : Pass) (passes : List Pass) (ns : Fragment) :
    applyAll (p :: passes) ns = applyAll passes (p.apply ns) := rfl

theorem sizeAll_applyAll_le (passes : List Pass) (ns : Fragment) :
    sizeAll (applyAll passes ns) ≤ sizeAll ns := by
  induction passes generalizing ns with
  | nil => exact Nat.le_refl _
  | cons p passes ih => exact Nat.le_trans (ih (p.apply ns)) (p.sizeAll_apply_le ns)

/-- What every pass of a run keeps, the run keeps. -/
theorem applyAll_induction (good : Fragment → Prop) {passes : List Pass}
    (hkeep : ∀ q ∈ passes, ∀ ns, good ns → good (q.apply ns)) {ns : Fragment} (h : good ns) :
    good (applyAll passes ns) := by
  induction passes generalizing ns with
  | nil => exact h
  | cons p passes ih =>
    rw [List.forall_mem_cons] at hkeep
    exact ih hkeep.2 (hkeep.1 ns h)

/-- What one pass of a run brings about and all of them keep holds after the run. -/
theorem applyAll_reaches (good : Fragment → Prop) {passes : List Pass}
    (hkeep : ∀ q ∈ passes, ∀ ns, good ns → good (q.apply ns)) {p : Pass} (hp : p ∈ passes)
    (hreach : ∀ ns, good (p.apply ns)) (ns : Fragment) : good (applyAll passes ns) := by
  induction passes generalizing ns with
  | nil => cases hp
  | cons q passes ih =>
    rw [List.forall_mem_cons] at hkeep
    rcases List.mem_cons.1 hp with rfl | hp
    · exact applyAll_induction good hkeep.2 (hreach ns)
    · exact ih hkeep.2 hp (q.apply ns)

/-- A run settles the tree for every pass whose work the passes after it keep. -/
theorem isSettled_applyAll (lasting : Pass → Prop) (good : Fragment → Prop) {passes : List Pass}
    (hgood : ∀ q ∈ passes, ∀ ns, good ns → good (q.apply ns))
    (hkeep : passes.Pairwise fun p q => lasting p →
      ∀ ns, good ns → p.IsSettled ns → p.IsSettled (q.apply ns))
    {ns : Fragment} (h : good ns) : ∀ p ∈ passes, lasting p → p.IsSettled (applyAll passes ns) := by
  induction passes generalizing ns with
  | nil => exact fun p hp => nomatch hp
  | cons p passes ih =>
    rw [List.forall_mem_cons] at hgood
    rw [List.pairwise_cons] at hkeep
    have hnext := hgood.1 ns h
    refine List.forall_mem_cons.2 ⟨fun hlasting => ?_, ih hgood.2 hkeep.2 hnext⟩
    have hrest : good (applyAll passes (p.apply ns)) ∧ p.IsSettled (applyAll passes (p.apply ns)) := by
      refine applyAll_induction (fun ns => good ns ∧ p.IsSettled ns) (fun q hq ns hns => ?_)
        ⟨hnext, p.isSettled_apply ns⟩
      exact ⟨hgood.2 q hq ns hns.1, hkeep.1 q hq hlasting ns hns.1 hns.2⟩
    exact hrest.2

theorem applyAll_eq_self {passes : List Pass} {ns : Fragment} (h : ∀ p ∈ passes, p.IsSettled ns) :
    applyAll passes ns = ns := by
  induction passes with
  | nil => rfl
  | cons p passes ih =>
    rw [List.forall_mem_cons] at h
    rw [applyAll_cons, h.1.apply_eq_self, ih h.2]

/-- If only passes that take nodes out find something to do, a run that changes anything leaves fewer
    nodes. -/
theorem applyAll_eq_self_or_sizeAll_lt {passes : List Pass} {ns : Fragment}
    (h : ∀ p ∈ passes, p.removesNodes = false → p.IsSettled ns) :
    applyAll passes ns = ns ∨ sizeAll (applyAll passes ns) < sizeAll ns := by
  induction passes with
  | nil => exact Or.inl rfl
  | cons p passes ih =>
    rw [List.forall_mem_cons] at h
    rw [applyAll_cons]
    have hp : p.apply ns = ns ∨ sizeAll (p.apply ns) < sizeAll ns := by
      cases hremoves : p.removesNodes with
      | true => exact apply_eq_self_or_sizeAll_lt hremoves ns
      | false => exact Or.inl (h.1 hremoves).apply_eq_self
    rcases hp with heq | hlt
    · rw [heq]
      exact ih h.2
    · exact Or.inr (Nat.lt_of_le_of_lt (sizeAll_applyAll_le passes (p.apply ns)) hlt)

/-! ## The cleanup -/

/-- The nesting is mended last. -/
theorem ne_nesting_of_pairwise (options : CleanupOptions) :
    (enabledPasses options).Pairwise fun p _ => p ≠ nesting :=
  (show inOrder.Pairwise fun p _ => p ≠ nesting by decide).filter _

/-- After wrappers are flattened only attributes and tags change. -/
theorem after_flattenWrappers (options : CleanupOptions) :
    (enabledPasses options).Pairwise fun p q =>
      p = flattenWrappers → q = duplicateAttributes ∨ q = nesting :=
  (show inOrder.Pairwise fun p q => p = flattenWrappers → q = duplicateAttributes ∨ q = nesting by
    decide).filter _

/-- A cleanup settles the tree for the passes that take no nodes out. -/
theorem isSettled_cleanup (options : CleanupOptions) (ns : Fragment) :
    ∀ p ∈ enabledPasses options, p.removesNodes = false → p.IsSettled (cleanup options ns) := by
  refine isSettled_applyAll (fun p => p.removesNodes = false) (fun _ => True) (fun _ _ _ _ => trivial)
    ?_ trivial
  refine (ne_nesting_of_pairwise options).imp fun {p q} hp hremoves ns _ h => ?_
  cases p with
  | normalizeWhitespace => exact normalizeWhitespace_isSettled_apply q h
  | semanticTags => exact semanticTags_isSettled_apply q h
  | duplicateAttributes => exact duplicateAttributes_isSettled_apply q h
  | nesting => exact absurd rfl hp
  | removeEmpty | flattenWrappers => cases hremoves

/-- A second cleanup that changes anything leaves fewer nodes. -/
theorem cleanup_cleanup_eq_self_or_sizeAll_lt (options : CleanupOptions) (ns : Fragment) :
    cleanup options (cleanup options ns) = cleanup options ns ∨
      sizeAll (cleanup options (cleanup options ns)) < sizeAll (cleanup options ns) :=
  applyAll_eq_self_or_sizeAll_lt (isSettled_cleanup options ns)

/-- If no attribute is there twice, a cleanup that leaves the nesting alone settles the tree for all its
    passes. -/
theorem isSettled_cleanup_of_distinct {options : CleanupOptions} (hnesting : options.fixNesting = false)
    {ns : Fragment} (h : ∀ n ∈ nodesAll ns, HasDistinctNames n) :
    ∀ p ∈ enabledPasses options, p.IsSettled (cleanup options ns) := by
  have hne : ∀ p ∈ enabledPasses options, p ≠ nesting := by
    rintro p hp rfl
    have henabled := (List.mem_filter.1 hp).2
    rw [enabled, hnesting] at henabled
    cases henabled
  have hgood : ∀ q ∈ enabledPasses options, ∀ ns, duplicateAttributes.IsSettled ns →
      duplicateAttributes.IsSettled (q.apply ns) :=
    fun q _ _ => duplicateAttributes_isSettled_apply q
  refine fun p hp => isSettled_applyAll (fun _ => True) _ hgood ?_ h p hp trivial
  refine (after_flattenWrappers options).imp_of_mem fun {p q} hp hq horder _ ns hdistinct h => ?_
  cases p with
  | normalizeWhitespace => exact normalizeWhitespace_isSettled_apply q h
  | removeEmpty => exact removeEmpty_isSettled_apply (hne q hq) h
  | semanticTags => exact semanticTags_isSettled_apply q h
  | flattenWrappers =>
    obtain rfl := (horder rfl).resolve_right (hne q hq)
    rwa [hdistinct.apply_eq_self]
  | duplicateAttributes => exact hgood q hq ns hdistinct
  | nesting => exact absurd rfl (hne _ hp)

end Cleanup.Pass

/-- A step that, once made, changes nothing more or lowers a measure, changes nothing more after as many
    further steps as the measure allows. -/
theorem exists_iterate_fixed {α : Type} {f : α → α} {measure : α → Nat}
    (hstep : ∀ x, f (f x) = f x ∨ measure (f (f x)) < measure (f x)) (x : α) :
    ∃ k ≤ measure (f x), f (f^[k] (f x)) = f^[k] (f x) := by
  induction hm : measure (f x) using Nat.strongRecOn generalizing x with
  | ind m ih =>
    rcases hstep x with heq | hlt
    · exact ⟨0, Nat.zero_le m, heq⟩
    · obtain ⟨k, hk, hfixed⟩ := ih (measure (f (f x))) (hm ▸ hlt) (f x) rfl
      refine ⟨k + 1, by omega, ?_⟩
      rw [Function.iterate_succ_apply]
      exact hfixed

/-- Cleaning up again and again comes to an end: after the first time each further cleanup changes nothing
    or leaves fewer nodes, so nothing changes any more after at most one cleanup more than there are nodes.
    If no attribute is there twice and the nesting is left alone, the second cleanup changes nothing. -/
theorem cleanup_converges (options : CleanupOptions) (t : Fragment) :
    (∀ k, 1 ≤ k → (cleanup options)^[k + 1] t = (cleanup options)^[k] t ∨
      sizeAll ((cleanup options)^[k + 1] t) < sizeAll ((cleanup options)^[k] t)) ∧
    (∃ k ≤ sizeAll t + 1, ∀ j, k ≤ j → (cleanup options)^[j] t = (cleanup options)^[k] t) ∧
    ((∀ n ∈ nodesAll t, HasDistinctNames n) → options.fixNesting = false →
      (cleanup options)^[2] t = (cleanup options)^[1] t) := by
  have hstep := Pass.cleanup_cleanup_eq_self_or_sizeAll_lt options
  refine ⟨fun k hk => ?_, ?_, fun hdistinct hnesting => ?_⟩
  · obtain ⟨k, rfl⟩ := Nat.exists_eq_add_of_le' hk
    rw [Function.iterate_succ_apply', Function.iterate_succ_apply']
    exact hstep ((cleanup options)^[k] t)
  · obtain ⟨k, hk, hfixed⟩ := exists_iterate_fixed hstep t
    have hfirst : sizeAll (cleanup options t) ≤ sizeAll t := Pass.sizeAll_applyAll_le _ t
    refine ⟨k + 1, by omega, fun j hj => ?_⟩
    obtain ⟨i, rfl⟩ := Nat.exists_eq_add_of_le' hj
    rw [Function.iterate_add_apply, Function.iterate_succ_apply]
    exact Function.iterate_fixed hfixed i
  · exact Pass.applyAll_eq_self (Pass.isSettled_cleanup_of_distinct hnesting hdistinct)

/-- Blocks below a paragraph, with all passes but the mending of nesting: the second cleanup changes
    nothing. -/
theorem cleanup_converges_blocks :
    let options : CleanupOptions := { fixNesting := false }
    let t : Fragment := [.element "p" [] [.element "div" [⟨"id", ""⟩]
      [.element "section" [] [.text " a  b "] none] none] none]
    (∀ n ∈ nodesAll t, HasDistinctNames n) ∧ options.fixNesting = false ∧
      (cleanup options)^[1] t = [.element "p" [] [.element "section" [] [.text " a b "] none] none] ∧
      (cleanup options)^[2] t = (cleanup options)^[1] t ∧
      ((cleanup options)^[2] t = (cleanup options)^[1] t ∨
        sizeAll ((cleanup options)^[2] t) < sizeAll ((cleanup options)^[1] t)) := by
  intro options t
  have hdistinct : ∀ n ∈ nodesAll t, HasDistinctNames n := by
    simp [t, nodesAll, nodes, HasDistinctNames, OnElement, DistinctNames]
  obtain ⟨hround, -, hsecond⟩ := cleanup_converges options t
  exact ⟨hdistinct, rfl, by decide +kernel, hsecond hdistinct rfl, hround 1 (Nat.le_refl 1)⟩

/-- With all passes it can take longer: every cleanup turns one more of the nested blocks into a wrapper,
    which only the next one takes out. -/
example :
    let t : Fragment := [.element "p" [] [.element "section" [] [.element "section" [] [] none] none] none]
    (cleanup {})^[1] t = [.element "p" [] [.element "span" [] [.element "section" [] [] none] none] none] ∧
      (cleanup {})^[2] t = [.element "p" [] [.element "span" [] [] none] none] ∧
      (cleanup {})^[3] t = [.element "p" [] [] none] := by
  decide +kernel

end MarkupCleaner
