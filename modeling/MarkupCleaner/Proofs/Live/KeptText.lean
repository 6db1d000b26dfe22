import Mathlib.Data.List.Flatten
import MarkupCleaner.Markup.Parse
import MarkupCleaner.Proofs.Cleanup.Texts
import MarkupCleaner.Proofs.Live.Cleanup
import MarkupCleaner.Proofs.Live.Filtered
import MarkupCleaner.Proofs.Live.Unwrapped

/-!
# Text that is shown as it was written

What a cleanup does to the text of an element that keeps its white space. The element stays in the document,
and no text below it is normalised. But the removal of empty nodes does not ask what is around a blank text:
it takes it out of such an element, too.
-/

namespace MarkupCleaner.Live

open LiveNode Cleanup

/-- The values of the texts below a node in document order. -/
def textsBelow (n : LiveNode) : List String := texts (plainAll n.children)

/-! ## The text below it -/

theorem eq_of_keepsWhitespace {tag : String} (h : keepsWhitespace tag = true) :
    tag = "pre" ∨ tag = "code" ∨ tag = "textarea" := by
  simpa [keepsWhitespace, or_assoc] using h

/-- An element that keeps its white space is no wrapper and no block, so that no pass gives it another tag or
    takes it out. -/
theorem tag_fixed {tag : String} (h : keepsWhitespace tag = true) :
    isWrapper tag = false ∧ (∀ attrs, (semanticForm tag attrs).1 = tag) ∧
      ∀ inParagraph, nestedTag inParagraph tag = tag := by
  have hdiv : tag ≠ "div" := by
    rintro rfl
    exact absurd h (by decide)
  refine ⟨?_, fun attrs => ?_, fun inParagraph => ?_⟩
  · rcases eq_of_keepsWhitespace h with rfl | rfl | rfl <;> decide
  · rw [semanticForm_of_ne_div hdiv]
  · rcases eq_of_keepsWhitespace h with rfl | rfl | rfl <;> cases inParagraph <;> decide

/-- A node that stands for another one after a change: it is the same element, with these texts below it. -/
structure ShowsTexts (n : LiveNode) (tag : String) (values : List String) (m : LiveNode) : Prop where
  id : m.id = n.id
  tag : m.tag? = some tag
  texts : textsBelow m = values

section

variable {tag : String} {n : LiveNode} {slots : List LiveNode}

/-- An edit that changes no texts below an element of this tag. -/
theorem exists_shows_editBelow {σ : Type} {e : Edit σ} (htag : n.tag? = some tag)
    (hfixed : ∀ s attrs, e.tag s tag attrs = tag)
    (htexts : ∀ s attrs ns, Cleanup.texts (e.onAll (e.below s tag attrs) ns) = Cleanup.texts ns) (s : σ)
    (hn : n ∈ nodesAll slots) :
    ∃ m ∈ nodesAll (editBelow e s slots), ShowsTexts n tag (textsBelow n) m := by
  obtain ⟨s', hs'⟩ := exists_mem_nodesAll_editBelow e s slots n hn
  refine ⟨_, hs', id_editNode e s' n, ?_, ?_⟩
  · cases n with
    | element link tag' attrs children ns =>
      obtain rfl := Option.some.inj htag
      exact congrArg some (hfixed s' attrs)
    | text link value => cases htag
    | comment link data => cases htag
  · cases n with
    | element link tag' attrs children ns =>
      obtain rfl := Option.some.inj htag
      show Cleanup.texts (plainAll (editBelow e _ children)) = Cleanup.texts (plainAll children)
      rw [plainAll_editBelow, htexts]
    | text link value => cases htag
    | comment link data => cases htag

/-- What a pass leaves of the texts below an element that keeps its white space. -/
def textsAfter (pass : Pass) (values : List String) : List String :=
  if pass = .removeEmpty then values.filter fun value => !Text.isBlank value else values

/-- Only the removal of empty nodes takes texts out of an element that keeps its white space. -/
theorem exists_shows_applyPass (holder : NodeId) (pass : Pass) (hn : n ∈ nodesAll slots)
    (htag : n.tag? = some tag) (hkeeps : keepsWhitespace tag = true) :
    ∃ m ∈ nodesAll (applyPass holder pass slots),
      ShowsTexts n tag (textsAfter pass (textsBelow n)) m := by
  obtain ⟨hwrapper, hsemantic, hnested⟩ := tag_fixed hkeeps
  cases pass with
  | normalizeWhitespace =>
    refine exists_shows_editBelow (e := whitespaceEdit) htag (fun _ _ => rfl) (fun kept attrs ns => ?_)
      false hn
    have hbelow : whitespaceEdit.below kept tag attrs = true := by
      show (kept || keepsWhitespace tag) = true
      rw [hkeeps, Bool.or_true]
    rw [hbelow, texts_whitespaceEdit_kept]
  | removeEmpty =>
    show ∃ m ∈ nodesAll (removeEmpty slots), _
    rw [removeEmpty_eq_pruned]
    have hmem := mem_nodesAll_pruned slots n hn htag (isEmpty_prunedInside_of_not_wrapper htag hwrapper)
    refine ⟨_, hmem, id_prunedInside n, (tag?_prunedInside n).trans htag, ?_⟩
    rw [textsBelow, children_prunedInside, plainAll_pruned, texts_prune]
    rfl
  | semanticTags =>
    exact exists_shows_editBelow (e := semanticEdit) htag (fun _ => hsemantic)
      (fun _ _ ns => texts_onAll (fun _ _ => rfl) _ ns) () hn
  | flattenWrappers =>
    show ∃ m ∈ nodesAll (flattenWrappers holder slots), _
    rw [flattenWrappers_eq_flattenedAll]
    obtain ⟨m, hm, hstays⟩ := exists_staysAs holder hn (stays_of_not_wrapper htag hwrapper)
    refine ⟨m, hm, hstays.id, hstays.tag?.trans htag, ?_⟩
    rw [textsBelow, hstays.children, plainAll_flattenedAll, texts_flattenBelow]
    rfl
  | duplicateAttributes =>
    exact exists_shows_editBelow (e := duplicateEdit) htag (fun _ _ => rfl)
      (fun _ _ ns => texts_onAll (fun _ _ => rfl) _ ns) () hn
  | nesting =>
    exact exists_shows_editBelow (e := nestingEdit) htag (fun inParagraph _ => hnested inParagraph)
      (fun _ _ ns => texts_onAll (fun _ _ => rfl) _ ns) false hn

theorem exists_shows_applyPasses (holder : NodeId) (passes : List Pass) (hn : n ∈ nodesAll slots)
    (htag : n.tag? = some tag) (hkeeps : keepsWhitespace tag = true) :
    ∃ m ∈ nodesAll (applyPasses holder passes slots),
      ShowsTexts n tag (passes.foldl (fun values pass => textsAfter pass values) (textsBelow n)) m := by
  induction passes generalizing n slots with
  | nil => exact ⟨n, hn, rfl, htag, rfl⟩
  | cons pass passes ih =>
    obtain ⟨m, hm, hid, hmtag, htexts⟩ := exists_shows_applyPass holder pass hn htag hkeeps
    obtain ⟨k, hk, hid', hktag, htexts'⟩ := ih hm hmtag
    refine ⟨k, hk, hid'.trans hid, hktag, ?_⟩
    rw [htexts', htexts]
    rfl

end

/-- However often blank texts are taken out, the others are left. -/
theorem foldl_textsAfter (passes : List Pass) (values : List String) :
    passes.foldl (fun values pass => textsAfter pass values) values =
      if .removeEmpty ∈ passes then values.filter fun value => !Text.isBlank value else values := by
  induction passes generalizing values with
  | nil => rfl
  | cons pass passes ih =>
    rw [List.foldl_cons, ih]
    by_cases hpass : pass = .removeEmpty
    · subst hpass
      simp [textsAfter]
    · have hne : Pass.removeEmpty ≠ pass := Ne.symm hpass
      simp [textsAfter, hpass, hne]

theorem removeEmpty_mem_enabledPasses (options : CleanupOptions) :
    .removeEmpty ∈ enabledPasses options ↔ options.removeEmpty = true := by
  have hall : Pass.removeEmpty ∈ Pass.inOrder := by decide
  rw [enabledPasses, List.mem_filter, and_iff_right hall]
  rfl

/-- Leaving some texts out keeps the whole text exactly if these are empty. -/
theorem join_filter_eq_iff (p : String → Bool) (values : List String) :
    String.join (values.filter p) = String.join values ↔ ∀ value ∈ values, p value = false → value = "" := by
  induction values with
  | nil => simp
  | cons value values ih =>
    by_cases hp : p value = true
    · rw [List.filter_cons_of_pos hp, String.join_cons, String.join_cons, List.forall_mem_cons, ← ih,
        String.append_right_inj]
      simp [hp]
    · have hshorter : (String.join (values.filter p)).length ≤ (String.join values).length := by
        rw [← String.length_toList, ← String.length_toList, String.toList_join, String.toList_join]
        exact (List.filter_sublist.flatMap String.toList).length_le
      rw [List.filter_cons_of_neg hp, String.join_cons, List.forall_mem_cons, ← ih]
      constructor
      · intro h
        have hlength := congrArg String.length h
        rw [String.length_append] at hlength
        have hempty : value = "" := String.length_eq_zero_iff.1 (by omega)
        rw [hempty, String.empty_append] at h
        exact ⟨fun _ => hempty, h⟩
      · rintro ⟨hempty, h⟩
        rw [hempty (Bool.not_eq_true _ ▸ hp), String.empty_append, h]

/-- The cleanup in place of a new document gives the cleaned tree, and every `pre`, `code` and `textarea`
    stays in it. The texts below one of them are the same as before, or without the blank ones if empty
    nodes are removed; so its whole text is the same exactly if empty nodes are not removed or no blank text
    below it has any characters. -/
theorem showsTexts_cleanup (options : CleanupOptions) (t : Fragment) :
    let d := LiveDocument.ofPlain t
    let after := cleanup options d.id d.children
    d.plain = t ∧ plainAll after = MarkupCleaner.cleanup options t ∧ (idsAll d.children).Nodup ∧
      (idsAll after).Nodup ∧
      ∀ n ∈ nodesAll d.children, ∀ tag, n.tag? = some tag → keepsWhitespace tag = true →
        ∃ m ∈ nodesAll after,
          ShowsTexts n tag (if options.removeEmpty then
              (textsBelow n).filter fun value => !Text.isBlank value
            else textsBelow n) m ∧
          (String.join (textsBelow m) = String.join (textsBelow n) ↔ options.removeEmpty = false ∨
            ∀ value ∈ textsBelow n, Text.isBlank value = true → value = "") := by
  intro d after
  have hplain := LiveDocument.plain_ofPlain t
  have hdistinct := nodup_idsAll_ofPlain t
  refine ⟨hplain, ?_, hdistinct, ?_, ?_⟩
  · rw [plainAll_cleanup]
    exact congrArg (MarkupCleaner.cleanup options) hplain
  · exact (keeps_applyPasses d.id (enabledPasses options) hdistinct).ids.nodup hdistinct
  · intro n hn tag htag hkeeps
    obtain ⟨m, hm, hid, hmtag, htexts⟩ :=
      exists_shows_applyPasses d.id (enabledPasses options) hn htag hkeeps
    rw [foldl_textsAfter] at htexts
    simp only [removeEmpty_mem_enabledPasses] at htexts
    refine ⟨m, hm, ⟨hid, hmtag, htexts⟩, ?_⟩
    rw [htexts]
    by_cases hremove : options.removeEmpty = true
    · rw [if_pos hremove, join_filter_eq_iff]
      simp [hremove]
    · simp [hremove]

/-- A line break below a `code` element goes, with the element around it left in place. -/
theorem showsTexts_cleanup_code :
    let d := LiveDocument.ofPlain
      [.element "p" [] [.element "code" [] [.text "a", .element "b" [] [.text "\n"] none] none] none]
    let n : LiveNode := .element ⟨2, some 1⟩ "code" []
      [.text ⟨3, some 2⟩ "a", .element ⟨4, some 2⟩ "b" [] [.text ⟨5, some 4⟩ "\n"] none] none
    n ∈ nodesAll d.children ∧ n.tag? = some "code" ∧ keepsWhitespace "code" = true ∧
      ∃ m ∈ nodesAll (cleanup {} d.id d.children),
        ShowsTexts n "code" ["a"] m ∧ String.join (textsBelow m) ≠ String.join (textsBelow n) := by
  intro d n
  have hn : n ∈ nodesAll d.children := List.mem_cons_of_mem _ List.mem_cons_self
  have hkeeps : keepsWhitespace "code" = true := by decide
  obtain ⟨-, -, -, -, hshows⟩ := showsTexts_cleanup {}
    [.element "p" [] [.element "code" [] [.text "a", .element "b" [] [.text "\n"] none] none] none]
  obtain ⟨m, hm, htexts, hsame⟩ := hshows n hn "code" rfl hkeeps
  have hleft : (textsBelow n).filter (fun value => !Text.isBlank value) = ["a"] := by decide +kernel
  rw [hleft] at htexts
  refine ⟨hn, rfl, hkeeps, m, hm, htexts, fun h => ?_⟩
  rcases hsame.1 h with hoff | hempty
  · cases hoff
  · exact absurd (hempty "\n" (by decide +kernel) (by decide +kernel)) (by decide)

/-- The space between two elements in a `pre` is not there after a cleanup. -/
theorem cleanup_drops_space :
    let text := "<pre><b>a</b> <i>b</i></pre>"
    let t : Fragment :=
      [.element "pre" [] [.element "b" [] [.text "a"] none, .text " ", .element "i" [] [.text "b"] none]
        none]
    parseFragment text = .ok t ∧
      MarkupCleaner.cleanup {} t =
        [.element "pre" [] [.element "b" [] [.text "a"] none, .element "i" [] [.text "b"] none] none] ∧
      String.join (texts t) = "a b" ∧ String.join (texts (MarkupCleaner.cleanup {} t)) = "ab" := by
  refine ⟨?_, ?_, ?_, ?_⟩
  · decide +kernel
  · decide +kernel
  · decide +kernel
  · decide +kernel

end MarkupCleaner.Live
