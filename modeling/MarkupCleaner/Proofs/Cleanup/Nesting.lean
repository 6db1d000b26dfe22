import MarkupCleaner.Proofs.Cleanup.Semantic

/-!
# What the mending of nesting leaves

Mending twice is mending once. The pass is the only one that makes new wrappers: a block that becomes
a `span` may be one that is empty or that could give way to its only child. Apart from the nodes right
below paragraphs, a tree without such wrappers stays without them.
-/

namespace MarkupCleaner.Cleanup

open Node Live Live.Edit

/-- The tag of a node is the old one, or it is `span` in place of a block right below a paragraph. -/
theorem nestedTag_cases (inParagraph : Bool) (tag : String) : nestedTag inParagraph tag = tag ∨
    (inParagraph = true ∧ tag ∈ paragraphBlocks ∧ nestedTag inParagraph tag = "span") := by
  unfold nestedTag
  split
  · next h =>
    rw [Bool.and_eq_true, List.contains_iff_mem] at h
    exact Or.inr ⟨h.1, h.2, rfl⟩
  · exact Or.inl rfl

theorem nestedTag_false (tag : String) : nestedTag false tag = tag := rfl

theorem nestedTag_span (inParagraph : Bool) : nestedTag inParagraph "span" = "span" := by
  cases inParagraph <;> decide

@[simp] theorem nestedTag_nestedTag (inParagraph : Bool) (tag : String) :
    nestedTag inParagraph (nestedTag inParagraph tag) = nestedTag inParagraph tag := by
  rcases nestedTag_cases inParagraph tag with heq | ⟨-, -, heq⟩
  · rw [heq, heq]
  · rw [heq, nestedTag_span]

theorem keepsWhitespace_nestedTag (inParagraph : Bool) (tag : String) :
    keepsWhitespace (nestedTag inParagraph tag) = keepsWhitespace tag := by
  have hblock : ∀ block ∈ paragraphBlocks, keepsWhitespace "span" = keepsWhitespace block := by decide
  rcases nestedTag_cases inParagraph tag with heq | ⟨-, hmem, heq⟩
  · rw [heq]
  · rw [heq, hblock tag hmem]

theorem settles_nestingEdit : nestingEdit.Settles where
  tag inParagraph tag _ := nestedTag_nestedTag inParagraph tag
  attrs _ _ _ := rfl
  text _ _ := rfl
  below inParagraph tag _ := by
    have htag := nestedTag_nestedTag inParagraph tag
    simp only [nestingEdit, htag]

/-- Mending twice is mending once. -/
theorem nestBelow_nestBelow (inParagraph : Bool) (ns : List Node) :
    nestBelow inParagraph (nestBelow inParagraph ns) = nestBelow inParagraph ns := by
  rw [← onAll_nestingEdit, ← onAll_nestingEdit, settles_nestingEdit.onAll_onAll]

theorem sizeAll_nestBelow (inParagraph : Bool) (ns : List Node) :
    sizeAll (nestBelow inParagraph ns) = sizeAll ns := by
  rw [← onAll_nestingEdit, sizeAll_onAll]

theorem normalizeBelow_nestBelow (kept inParagraph : Bool) (ns : List Node) :
    normalizeBelow kept (nestBelow inParagraph ns) = nestBelow inParagraph (normalizeBelow kept ns) := by
  rw [← onAll_nestingEdit, ← onAll_nestingEdit]
  exact normalizeBelow_onAll (fun _ _ => rfl)
    (fun inParagraph tag _ => keepsWhitespace_nestedTag inParagraph tag) kept inParagraph ns

theorem isSemantic_of_mem_nestBelow {ns : List Node} (h : ∀ n ∈ nodesAll ns, IsSemantic n)
    (inParagraph : Bool) : ∀ n ∈ nodesAll (nestBelow inParagraph ns), IsSemantic n := by
  rw [← onAll_nestingEdit]
  refine onElement_onAll nestingEdit (fun inParagraph tag attrs hform => ?_) inParagraph h
  show semanticForm (nestedTag inParagraph tag) attrs = (nestedTag inParagraph tag, attrs)
  rcases nestedTag_cases inParagraph tag with heq | ⟨-, -, heq⟩
  · rwa [heq]
  · rw [heq, semanticForm_of_ne_div (by decide)]

theorem hasDistinctNames_of_mem_nestBelow {ns : List Node} (h : ∀ n ∈ nodesAll ns, HasDistinctNames n)
    (inParagraph : Bool) : ∀ n ∈ nodesAll (nestBelow inParagraph ns), HasDistinctNames n := by
  rw [← onAll_nestingEdit]
  exact onElement_onAll nestingEdit (fun _ _ _ hattrs => hattrs) inParagraph h

/-! ## New wrappers -/

/-- A node that is neither hollow nor gives way to its only child. -/
def IsTight (n : Node) : Prop := isHollow n = false ∧ soleChild? n = none

/-- A node that has only tight nodes right below it if it is a paragraph. -/
def HasTightParagraph : Node → Prop
  | .element tag _ children _ => tag = "p" → ∀ c ∈ children, IsTight c
  | .text _ => True
  | .comment _ => True

instance (n : Node) : Decidable (IsTight n) := inferInstanceAs (Decidable (_ ∧ _))

/-- Away from paragraphs the tag of a tight node stays, and so it stays tight. -/
theorem IsTight.nestNode {n : Node} (h : IsTight n) : IsTight (nestNode false n) := by
  cases n with
  | element tag attrs children ns =>
    obtain ⟨hhollow, hsole⟩ := h
    rw [isHollow] at hhollow
    rw [soleChild?] at hsole
    rw [Cleanup.nestNode, nestedTag_false]
    refine ⟨?_, ?_⟩
    · rw [isHollow, ← onAll_nestingEdit, any_isContent_onAll (fun _ _ => rfl)]
      exact hhollow
    · have helement : ∀ n, (Cleanup.nestNode (tag = "p") n).isElement = n.isElement := by
        intro n
        cases n <;> rfl
      rw [soleChild?, nestBelow_eq_map, onlyChild?_map helement, hsole]
      rfl
  | text value => exact h
  | comment data => exact h

mutual

theorem isTight_of_mem_nestNode (inParagraph : Bool) : ∀ n : Node, (∀ m ∈ n.nodes, IsTight m) →
    (inParagraph = true → IsTight (nestNode inParagraph n)) →
    (∀ m ∈ (nestNode inParagraph n).nodes, HasTightParagraph m) →
    ∀ m ∈ (nestNode inParagraph n).nodes, IsTight m
  | .element tag attrs children ns, h, hself, hparagraph => by
    obtain ⟨htight, hbelow⟩ := forall_nodes_element.1 h
    obtain ⟨hhere, hinside⟩ := forall_nodes_element.1 hparagraph
    refine forall_nodes_element.2 ⟨?_, ?_⟩
    · cases inParagraph with
      | false => exact htight.nestNode
      | true => exact hself rfl
    · refine isTight_of_mem_nestBelow _ children hbelow (fun hp => ?_) hinside
      exact hhere (of_decide_eq_true hp)
  | .text value, h, _, _ => h
  | .comment data, h, _, _ => h

/-- A tight tree stays tight if the nodes right below its paragraphs do. -/
theorem isTight_of_mem_nestBelow (inParagraph : Bool) : ∀ ns : List Node,
    (∀ m ∈ nodesAll ns, IsTight m) →
    (inParagraph = true → ∀ c ∈ nestBelow inParagraph ns, IsTight c) →
    (∀ m ∈ nodesAll (nestBelow inParagraph ns), HasTightParagraph m) →
    ∀ m ∈ nodesAll (nestBelow inParagraph ns), IsTight m
  | [], _, _, _ => fun m hm => nomatch hm
  | n :: ns, h, hself, hparagraph => by
    obtain ⟨hn, hns⟩ := forall_nodesAll_cons.1 h
    obtain ⟨hparagraphN, hparagraphNs⟩ := forall_nodesAll_cons.1 hparagraph
    refine forall_nodesAll_cons.2 ⟨?_, ?_⟩
    · refine isTight_of_mem_nestNode inParagraph n hn (fun hp => ?_) hparagraphN
      exact hself hp _ List.mem_cons_self
    · refine isTight_of_mem_nestBelow inParagraph ns hns (fun hp c hc => ?_) hparagraphNs
      exact hself hp c (List.mem_cons_of_mem _ hc)

end

end MarkupCleaner.Cleanup
