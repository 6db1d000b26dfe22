import MarkupCleaner.Cleanup.Pass
import MarkupCleaner.Proofs.Cleanup.Duplicate
import MarkupCleaner.Proofs.Markup.Parsed

/-!
# Cleaning up twice

After the whole cleanup nearly everything is in its final form: texts, tags, attributes and nesting do
not change any more, and no node is hollow or gives way to its only child, except right below a
paragraph. There the last pass turns blocks into wrappers, and a second cleanup treats those that are
not tight. It changes nothing exactly if there are none.
-/

namespace MarkupCleaner

open Node Cleanup Markup

/-- All passes in their order. -/
theorem cleanup_default (ns : Fragment) : cleanup {} ns =
    nestBelow false (distinctBelow (flattenBelow (semanticBelow (prune (normalizeBelow false ns))))) :=
  rfl

namespace Cleanup

/-- A cleaned tree before its nesting is mended, if no element has an attribute twice. -/
structure CleanBelow (ns : List Node) : Prop where
  normal : normalizeBelow false ns = ns
  tight : ∀ n ∈ nodesAll ns, IsTight n
  semantic : ∀ n ∈ nodesAll ns, IsSemantic n
  distinct : ∀ n ∈ nodesAll ns, HasDistinctNames n

theorem cleanBelow_of_distinct {ns : List Node} (h : ∀ n ∈ nodesAll ns, HasDistinctNames n) :
    CleanBelow (distinctBelow (flattenBelow (semanticBelow (prune (normalizeBelow false ns))))) := by
  have hdistinct : ∀ n ∈ nodesAll (flattenBelow (semanticBelow (prune (normalizeBelow false ns)))),
      HasDistinctNames n := by
    apply of_mem_flattenBelow (ignoresChildren_onElement _)
    apply hasDistinctNames_of_mem_semanticBelow
    apply of_mem_prune (ignoresChildren_onElement _)
    exact onElement_of_mem_normalizeBelow false h
  rw [distinctBelow_eq_self hdistinct]
  refine ⟨?_, fun n hn => ⟨?_, ?_⟩, ?_, hdistinct⟩
  · rw [normalizeBelow_flattenBelow, normalizeBelow_semanticBelow, normalizeBelow_prune,
      normalizeBelow_normalizeBelow]
  · have hpruned := not_hollow_of_mem_semanticBelow
      (not_hollow_of_mem_prune (normalizeBelow false ns))
    exact not_hollow_of_mem_flattenBelow hpruned n hn
  · exact soleChild?_of_mem_flattenBelow _ n hn
  · exact of_mem_flattenBelow (ignoresChildren_onElement _) (isSemantic_of_mem_semanticBelow _)

/-- What the last pass leaves of a clean tree. -/
structure CleanNested (ns : List Node) : Prop where
  normal : normalizeBelow false ns = ns
  semantic : ∀ n ∈ nodesAll ns, IsSemantic n
  distinct : ∀ n ∈ nodesAll ns, HasDistinctNames n
  nested : nestBelow false ns = ns
  tight : (∀ n ∈ nodesAll ns, HasTightParagraph n) → ∀ n ∈ nodesAll ns, IsTight n

theorem CleanBelow.nestBelow {ns : List Node} (h : CleanBelow ns) :
    CleanNested (nestBelow false ns) where
  normal := by rw [normalizeBelow_nestBelow, h.normal]
  semantic := isSemantic_of_mem_nestBelow h.semantic false
  distinct := hasDistinctNames_of_mem_nestBelow h.distinct false
  nested := nestBelow_nestBelow false ns
  tight := isTight_of_mem_nestBelow false ns h.tight nofun

theorem CleanNested.cleanup_eq_self {ns : List Node} (h : CleanNested ns)
    (hparagraph : ∀ n ∈ nodesAll ns, HasTightParagraph n) : cleanup {} ns = ns := by
  have htight := h.tight hparagraph
  have hprune : prune ns = ns := prune_eq_self ns fun n hn => (htight n hn).1
  have hflatten : flattenBelow ns = ns := flattenBelow_eq_self ns fun n hn => (htight n hn).2
  rw [cleanup_default, h.normal, hprune, semanticBelow_eq_self h.semantic, hflatten,
    distinctBelow_eq_self h.distinct, h.nested]

/-- A second cleanup that removes or flattens anything leaves fewer nodes, so what it leaves alone is
    tight. -/
theorem CleanNested.tight_of_cleanup_eq_self {ns : List Node} (h : CleanNested ns)
    (hsame : cleanup {} ns = ns) : ∀ n ∈ nodesAll ns, IsTight n := by
  have hsize : sizeAll (flattenBelow (semanticBelow (prune ns))) = sizeAll ns := by
    have hcongr := congrArg sizeAll hsame
    rwa [cleanup_default, h.normal, sizeAll_nestBelow, sizeAll_distinctBelow] at hcongr
  have hle := sizeAll_flattenBelow_le (semanticBelow (prune ns))
  rw [sizeAll_semanticBelow] at hle
  have hprune : prune ns = ns := by
    rcases prune_eq_self_or_sizeAll_lt ns with heq | hlt
    · exact heq
    · omega
  rw [hprune, semanticBelow_eq_self h.semantic] at hsize
  have hflatten : flattenBelow ns = ns := by
    rcases flattenBelow_eq_self_or_sizeAll_lt ns with heq | hlt
    · exact heq
    · omega
  intro n hn
  exact ⟨prune_eq_self_iff.1 hprune n hn, flattenBelow_eq_self_iff.1 hflatten n hn⟩

/-- A clean tree stays as it is exactly if every node right below a paragraph is tight. -/
theorem CleanNested.cleanup_eq_self_iff {ns : List Node} (h : CleanNested ns) :
    cleanup {} ns = ns ↔ ∀ n ∈ nodesAll ns, HasTightParagraph n := by
  refine ⟨fun hsame n hn => ?_, h.cleanup_eq_self⟩
  have htight := h.tight_of_cleanup_eq_self hsame
  cases n with
  | element tag attrs children space =>
    exact fun _ c hc => htight c (mem_nodesAll_of_mem_children hn hc)
  | text value => trivial
  | comment data => trivial

end Cleanup

/-- A second cleanup of a parsed text changes nothing exactly if the first one leaves no hollow node
    and none that gives way to its only child right below a paragraph. -/
theorem cleanup_cleanup_iff {text : String} {t : Fragment} (h : parseFragment text = .ok t) :
    cleanup {} (cleanup {} t) = cleanup {} t ↔ ∀ n ∈ nodesAll (cleanup {} t), HasTightParagraph n :=
  (cleanBelow_of_distinct (hasDistinctNames_of_parseFragment h)).nestBelow.cleanup_eq_self_iff

/-- A block without content below a paragraph: the cleanup makes it a wrapper, which only a second
    cleanup removes. -/
theorem cleanup_cleanup_iff_section :
    let text := "<p><section></section></p>"
    let t : Fragment := [.element "p" [] [.element "section" [] [] none] none]
    parseFragment text = .ok t ∧
      (cleanup {} (cleanup {} t) = cleanup {} t ↔
        ∀ n ∈ nodesAll (cleanup {} t), HasTightParagraph n) :=
  have hparse : parseFragment "<p><section></section></p>" =
      .ok [.element "p" [] [.element "section" [] [] none] none] := by
    decide +kernel
  ⟨hparse, cleanup_cleanup_iff hparse⟩

/-- For that text the first cleanup leaves an empty wrapper in the paragraph, and the second removes
    it. -/
theorem cleanup_cleanup_ne :
    let text := "<p><section></section></p>"
    let t : Fragment := [.element "p" [] [.element "section" [] [] none] none]
    parseFragment text = .ok t ∧
      cleanup {} t = [.element "p" [] [.element "span" [] [] none] none] ∧
      cleanup {} (cleanup {} t) = [.element "p" [] [] none] ∧
      cleanup {} (cleanup {} t) ≠ cleanup {} t := by
  refine ⟨?_, ?_, ?_, ?_⟩
  · decide +kernel
  · decide +kernel
  · decide +kernel
  · decide +kernel

end MarkupCleaner
