import MarkupCleaner.Proofs.Cleanup.Nesting
import MarkupCleaner.Proofs.Tree.ClassTokens

/-!
# What the removal of duplicate attributes leaves

The names that are left are distinct. A name that is looked up is found with the value it had before or
not at all, so an element that keeps its tag still keeps it.
-/

namespace MarkupCleaner.Cleanup

open Node Live Live.Edit

theorem mem_of_mem_distinctAfter {seen : List String} {attrs : Attributes} {a : Attribute}
    (h : a ∈ distinctAfter seen attrs) : a ∈ attrs ∧ Attributes.lowerName a.name ∉ seen := by
  induction attrs generalizing seen with
  | nil => cases h
  | cons b attrs ih =>
    rw [distinctAfter] at h
    by_cases hseen : Attributes.lowerName b.name ∈ seen
    · simp only [if_pos hseen] at h
      exact ⟨List.mem_cons_of_mem _ (ih h).1, (ih h).2⟩
    · simp only [if_neg hseen, List.mem_cons] at h
      rcases h with rfl | h
      · exact ⟨List.mem_cons_self, hseen⟩
      · obtain ⟨hmem, hnew⟩ := ih h
        exact ⟨List.mem_cons_of_mem _ hmem, fun hs => hnew (List.mem_cons_of_mem _ hs)⟩

theorem distinctNames_distinctAfter (seen : List String) (attrs : Attributes) :
    DistinctNames (distinctAfter seen attrs) := by
  induction attrs generalizing seen with
  | nil => exact List.nodup_nil
  | cons a attrs ih =>
    rw [distinctAfter]
    by_cases hseen : Attributes.lowerName a.name ∈ seen
    · simp only [if_pos hseen]
      exact ih seen
    · simp only [if_neg hseen, DistinctNames, List.map_cons, List.nodup_cons]
      refine ⟨fun hmem => ?_, ih _⟩
      obtain ⟨b, hb, hname⟩ := List.mem_map.1 hmem
      exact (mem_of_mem_distinctAfter hb).2 (hname ▸ List.mem_cons_self)

theorem value?_distinctAfter_of_seen {seen : List String} {name : String}
    (h : Attributes.lowerName name ∈ seen) (attrs : Attributes) :
    (distinctAfter seen attrs).value? name = none := by
  rw [Attributes.value?, List.find?_eq_none.2, Option.map_none]
  intro a ha
  rw [decide_eq_true_eq]
  rintro rfl
  exact (mem_of_mem_distinctAfter ha).2 h

/-- The first attribute of a name is kept unless one whose name differs in case stands before it. -/
theorem value?_distinctAfter (seen : List String) (attrs : Attributes) (name : String) :
    (distinctAfter seen attrs).value? name = attrs.value? name ∨
      (distinctAfter seen attrs).value? name = none := by
  induction attrs generalizing seen with
  | nil => exact Or.inl rfl
  | cons a attrs ih =>
    rw [distinctAfter]
    by_cases hseen : Attributes.lowerName a.name ∈ seen
    · simp only [if_pos hseen]
      by_cases hname : a.name = name
      · exact Or.inr (value?_distinctAfter_of_seen (hname ▸ hseen) attrs)
      · rw [Attributes.value?_cons, if_neg hname]
        exact ih seen
    · simp only [if_neg hseen, Attributes.value?_cons]
      by_cases hname : a.name = name
      · rw [if_pos hname, if_pos hname]
        exact Or.inl rfl
      · rw [if_neg hname, if_neg hname]
        exact ih _

theorem value?_distinctAttributes (attrs : Attributes) (name : String) :
    (distinctAttributes attrs).value? name = attrs.value? name ∨
      (distinctAttributes attrs).value? name = none :=
  value?_distinctAfter [] attrs name

theorem classValues_distinctAttributes_subset (attrs : Attributes) :
    (distinctAttributes attrs).classValues ⊆ attrs.classValues := by
  have hvalue : ∀ {name value : String}, (distinctAttributes attrs).value? name = some value →
      attrs.value? name = some value := by
    intro name value h
    rcases value?_distinctAttributes attrs name with heq | heq
    · rw [← heq, h]
    · rw [heq] at h
      cases h
  intro value hmem
  simp only [Attributes.classValues, List.mem_filterMap, List.mem_cons, List.not_mem_nil, or_false,
    id_eq, exists_eq_right] at hmem ⊢
  exact hmem.imp (fun h => (hvalue h.symm).symm) fun h => (hvalue h.symm).symm

theorem classTokens_distinctAttributes_subset (attrs : Attributes) :
    (distinctAttributes attrs).classTokens ⊆ attrs.classTokens := by
  intro token h
  rw [Attributes.mem_classTokens] at h ⊢
  obtain ⟨⟨value, hvalue, hword⟩, hne⟩ := h
  exact ⟨⟨value, classValues_distinctAttributes_subset attrs hvalue, hword⟩, hne⟩

/-- A `div` keeps its tag exactly if neither its role nor any of its class tokens names an element. -/
theorem semanticForm_div_eq_self_iff {attrs : Attributes} :
    semanticForm "div" attrs = ("div", attrs) ↔
      (attrs.get? "role").bind roleTag? = none ∧ ∀ token ∈ attrs.classTokens, classTag? token = none := by
  have hne : ∀ {new : String} {attrs' : Attributes}, new ∈ semanticElements →
      (new, attrs') ≠ ("div", attrs) := by
    intro new attrs' hmem heq
    exact ne_div_of_mem_semanticElements hmem (congrArg Prod.fst heq)
  rw [semanticForm, if_pos rfl]
  cases hrole : (attrs.get? "role").bind roleTag? with
  | some new =>
    obtain ⟨role, -, htag⟩ := Option.bind_eq_some_iff.1 hrole
    exact iff_of_false (hne (mem_semanticElements_of_roleTag htag)) (by simp)
  | none =>
    cases hclass : attrs.classTokens.findSome? classTag? with
    | some new =>
      obtain ⟨token, hmem, htag⟩ := List.exists_of_findSome?_eq_some hclass
      refine iff_of_false (hne (mem_semanticElements_of_classTag htag)) fun h => ?_
      rw [h.2 token hmem] at htag
      cases htag
    | none => exact iff_of_true rfl ⟨rfl, List.findSome?_eq_none_iff.1 hclass⟩

/-- An element that keeps its tag and its attributes does so without some of the attributes, too. -/
theorem semanticForm_distinctAttributes {tag : String} {attrs : Attributes}
    (h : semanticForm tag attrs = (tag, attrs)) :
    semanticForm tag (distinctAttributes attrs) = (tag, distinctAttributes attrs) := by
  by_cases hdiv : tag = "div"
  · subst hdiv
    rw [semanticForm_div_eq_self_iff] at h ⊢
    refine ⟨?_, fun token hmem => h.2 token (classTokens_distinctAttributes_subset attrs hmem)⟩
    rw [Attributes.get?]
    rcases value?_distinctAttributes attrs (Attributes.lowerName "role") with heq | heq
    · rw [heq]
      exact h.1
    · rw [heq]
      rfl
  · rw [semanticForm_of_ne_div hdiv]

/-! ## Trees -/

/-- Every node that the pass leaves has attributes with distinct names. -/
theorem hasDistinctNames_of_mem_distinctBelow (ns : List Node) :
    ∀ n ∈ nodesAll (distinctBelow ns), HasDistinctNames n := by
  rw [← onAll_duplicateEdit]
  refine forall_nodesAll_onAll duplicateEdit (fun _ n _ => ?_) () ns fun _ _ => trivial
  cases n with
  | element tag attrs children ns => exact distinctNames_distinctAfter [] attrs
  | text value => trivial
  | comment data => trivial

theorem sizeAll_distinctBelow (ns : List Node) : sizeAll (distinctBelow ns) = sizeAll ns := by
  rw [← onAll_duplicateEdit, sizeAll_onAll]

theorem normalizeBelow_distinctBelow (kept : Bool) (ns : List Node) :
    normalizeBelow kept (distinctBelow ns) = distinctBelow (normalizeBelow kept ns) := by
  rw [← onAll_duplicateEdit, ← onAll_duplicateEdit]
  exact normalizeBelow_onAll (fun _ _ => rfl) (fun _ _ _ => rfl) kept () ns

theorem isSemantic_of_mem_distinctBelow {ns : List Node} (h : ∀ n ∈ nodesAll ns, IsSemantic n) :
    ∀ n ∈ nodesAll (distinctBelow ns), IsSemantic n := by
  rw [← onAll_duplicateEdit]
  exact onElement_onAll duplicateEdit (fun _ _ _ => semanticForm_distinctAttributes) () h

theorem not_hollow_of_mem_distinctBelow {ns : List Node} (h : ∀ n ∈ nodesAll ns, isHollow n = false) :
    ∀ n ∈ nodesAll (distinctBelow ns), isHollow n = false := by
  rw [← onAll_duplicateEdit]
  exact not_hollow_of_mem_onAll (fun _ _ => rfl) (fun _ _ _ hwrapper => hwrapper) () h

end MarkupCleaner.Cleanup
