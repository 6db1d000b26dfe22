import MarkupCleaner.Proofs.Cleanup.Attributes
import MarkupCleaner.Proofs.Cleanup.Empty
import MarkupCleaner.Proofs.Cleanup.Whitespace

/-!
# What the change to semantic tags leaves

A `div` either keeps its tag or becomes one of the semantic elements, and none of these is changed
again. No other element becomes a wrapper, and none keeps its white space that did not before.
-/

namespace MarkupCleaner.Cleanup

open Node Live Live.Edit

/-- The elements that a `div` can become. -/
def semanticElements : List String :=
  ["header", "nav", "main", "footer", "aside", "button", "section", "article"]

theorem mem_semanticElements_of_roleTag {role tag : String} (h : roleTag? role = some tag) :
    tag ∈ semanticElements := by
  unfold roleTag? at h
  split at h <;> cases h <;> decide

theorem mem_semanticElements_of_classTag {token tag : String} (h : classTag? token = some tag) :
    tag ∈ semanticElements := by
  unfold classTag? at h
  split at h <;> cases h <;> decide

/-- What can become of an element: it stays as it is, or it is a `div` and gets a semantic tag, either
    with all its attributes or without its role. -/
theorem semanticForm_cases (tag : String) (attrs : Attributes) :
    semanticForm tag attrs = (tag, attrs) ∨ (tag = "div" ∧ ∃ new ∈ semanticElements,
      semanticForm tag attrs = (new, attrs) ∨ semanticForm tag attrs = (new, attrs.erase "role")) := by
  unfold semanticForm
  by_cases hdiv : tag = "div"
  · rw [if_pos hdiv]
    split
    · next new heq =>
      obtain ⟨role, -, hrole⟩ := Option.bind_eq_some_iff.1 heq
      exact Or.inr ⟨hdiv, new, mem_semanticElements_of_roleTag hrole, Or.inr rfl⟩
    · split
      · next new heq =>
        obtain ⟨token, -, htoken⟩ := List.exists_of_findSome?_eq_some heq
        exact Or.inr ⟨hdiv, new, mem_semanticElements_of_classTag htoken, Or.inl rfl⟩
      · exact Or.inl rfl
  · rw [if_neg hdiv]
    exact Or.inl rfl

theorem semanticForm_of_ne_div {tag : String} (h : tag ≠ "div") (attrs : Attributes) :
    semanticForm tag attrs = (tag, attrs) := if_neg h

theorem ne_div_of_mem_semanticElements {tag : String} (h : tag ∈ semanticElements) : tag ≠ "div" := by
  rintro rfl
  revert h
  decide

/-- The element that results is not changed again. -/
theorem semanticForm_semanticForm (tag : String) (attrs : Attributes) :
    semanticForm (semanticForm tag attrs).1 (semanticForm tag attrs).2 = semanticForm tag attrs := by
  rcases semanticForm_cases tag attrs with heq | ⟨-, new, hnew, heq | heq⟩
  · rw [heq, heq]
  · rw [heq, semanticForm_of_ne_div (ne_div_of_mem_semanticElements hnew)]
  · rw [heq, semanticForm_of_ne_div (ne_div_of_mem_semanticElements hnew)]

/-- The tag that results is the old one, or it replaces a `div`. -/
theorem semanticForm_fst (tag : String) (attrs : Attributes) : (semanticForm tag attrs).1 = tag ∨
    (tag = "div" ∧ (semanticForm tag attrs).1 ∈ semanticElements) := by
  rcases semanticForm_cases tag attrs with heq | ⟨hdiv, new, hnew, heq | heq⟩
  · exact Or.inl (by rw [heq])
  · exact Or.inr ⟨hdiv, by rw [heq]; exact hnew⟩
  · exact Or.inr ⟨hdiv, by rw [heq]; exact hnew⟩

theorem isWrapper_of_semanticForm {tag : String} {attrs : Attributes}
    (h : isWrapper (semanticForm tag attrs).1 = true) : isWrapper tag = true := by
  rcases semanticForm_fst tag attrs with heq | ⟨hdiv, -⟩
  · rwa [heq] at h
  · rw [hdiv]
    decide

theorem keepsWhitespace_semanticForm (tag : String) (attrs : Attributes) :
    keepsWhitespace (semanticForm tag attrs).1 = keepsWhitespace tag := by
  have hnew : ∀ new ∈ semanticElements, keepsWhitespace new = keepsWhitespace "div" := by decide
  rcases semanticForm_fst tag attrs with heq | ⟨rfl, hmem⟩
  · rw [heq]
  · exact hnew _ hmem

theorem DistinctNames.semanticForm {attrs : Attributes} (h : DistinctNames attrs) (tag : String) :
    DistinctNames (semanticForm tag attrs).2 := by
  rcases semanticForm_cases tag attrs with heq | ⟨-, new, -, heq | heq⟩
  · rwa [heq]
  · rwa [heq]
  · rw [heq]
    exact h.erase "role"

/-! ## Trees -/

/-- A node that keeps its tag and its attributes. -/
def IsSemantic : Node → Prop := OnElement fun tag attrs => semanticForm tag attrs = (tag, attrs)

/-- Every node that the pass leaves keeps its tag and its attributes from then on. -/
theorem isSemantic_of_mem_semanticBelow (ns : List Node) :
    ∀ n ∈ nodesAll (semanticBelow ns), IsSemantic n := by
  rw [← onAll_semanticEdit]
  refine forall_nodesAll_onAll semanticEdit (fun _ n _ => ?_) () ns fun _ _ => trivial
  cases n with
  | element tag attrs children ns => exact semanticForm_semanticForm tag attrs
  | text value => trivial
  | comment data => trivial

theorem semanticBelow_eq_self {ns : List Node} (h : ∀ n ∈ nodesAll ns, IsSemantic n) :
    semanticBelow ns = ns := by
  rw [← onAll_semanticEdit]
  refine onAll_eq_self_of_onElement semanticEdit (fun _ _ => rfl) (fun _ tag attrs hform => ?_) () h
  exact ⟨congrArg Prod.fst hform, congrArg Prod.snd hform⟩

theorem sizeAll_semanticBelow (ns : List Node) : sizeAll (semanticBelow ns) = sizeAll ns := by
  rw [← onAll_semanticEdit, sizeAll_onAll]

theorem normalizeBelow_semanticBelow (kept : Bool) (ns : List Node) :
    normalizeBelow kept (semanticBelow ns) = semanticBelow (normalizeBelow kept ns) := by
  rw [← onAll_semanticEdit, ← onAll_semanticEdit]
  exact normalizeBelow_onAll (fun _ _ => rfl) (fun _ tag attrs => keepsWhitespace_semanticForm tag attrs)
    kept () ns

/-- A node that is not hollow does not become so by an edit that makes no new wrappers. -/
theorem not_hollow_of_mem_onAll {σ : Type} {e : Edit σ} (htext : ∀ s value, e.text s value = value)
    (htag : ∀ s tag attrs, isWrapper (e.tag s tag attrs) = true → isWrapper tag = true) (s : σ)
    {ns : List Node} (h : ∀ n ∈ nodesAll ns, isHollow n = false) :
    ∀ n ∈ nodesAll (e.onAll s ns), isHollow n = false := by
  have hblank : ∀ s value, Text.isBlank (e.text s value) = Text.isBlank value := by
    intro s value
    rw [htext]
  refine forall_nodesAll_onAll e (fun s n hn => ?_) s ns h
  cases n with
  | element tag attrs children ns =>
    rw [onNode, isHollow, any_isContent_onAll hblank]
    rw [isHollow, Bool.and_eq_false_iff] at hn
    rw [Bool.and_eq_false_iff]
    refine hn.imp_left fun hold => ?_
    rw [← Bool.not_eq_true] at hold ⊢
    exact fun hnew => hold (htag s tag attrs hnew)
  | text value =>
    rw [onNode, htext]
    exact hn
  | comment data => rfl

theorem not_hollow_of_mem_semanticBelow {ns : List Node}
    (h : ∀ n ∈ nodesAll ns, isHollow n = false) : ∀ n ∈ nodesAll (semanticBelow ns), isHollow n = false := by
  rw [← onAll_semanticEdit]
  exact not_hollow_of_mem_onAll (fun _ _ => rfl) (fun _ _ _ => isWrapper_of_semanticForm) () h

theorem hasDistinctNames_of_mem_semanticBelow {ns : List Node}
    (h : ∀ n ∈ nodesAll ns, HasDistinctNames n) : ∀ n ∈ nodesAll (semanticBelow ns), HasDistinctNames n := by
  rw [← onAll_semanticEdit]
  exact onElement_onAll semanticEdit (fun _ tag _ hattrs => hattrs.semanticForm tag) () h

end MarkupCleaner.Cleanup
