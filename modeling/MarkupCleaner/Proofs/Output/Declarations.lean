import MarkupCleaner.Output.Style
import MarkupCleaner.Proofs.Text.Cuts
import MarkupCleaner.Proofs.Text.Trim

/-!
# Declarations of a style, read and written

A style is read as a list of declarations, whatever else it holds. Such a list can be written as a style that
is read as the same list, and no other list can: the properties and values that come out of a style are just
those that survive being written.
-/

namespace MarkupCleaner.Output

open Text

/-- A property and a value that can be written in a style. Both are there and trimmed, and they hold no mark at
    which a style is cut: a property neither colon nor semicolon, a value no semicolon. -/
structure IsDeclaration (d : List Char × List Char) : Prop where
  key_nonempty : d.1 ≠ []
  key_trimmed : IsTrimmed d.1
  key_colon : ':' ∉ d.1
  key_semicolon : ';' ∉ d.1
  value_nonempty : d.2 ≠ []
  value_trimmed : IsTrimmed d.2
  value_semicolon : ';' ∉ d.2

instance : DecidablePred IsDeclaration := fun d =>
  decidable_of_iff (d.1 ≠ [] ∧ IsTrimmed d.1 ∧ ':' ∉ d.1 ∧ ';' ∉ d.1 ∧ d.2 ≠ [] ∧ IsTrimmed d.2 ∧ ';' ∉ d.2)
    ⟨fun ⟨h1, h2, h3, h4, h5, h6, h7⟩ => ⟨h1, h2, h3, h4, h5, h6, h7⟩,
      fun ⟨h1, h2, h3, h4, h5, h6, h7⟩ => ⟨h1, h2, h3, h4, h5, h6, h7⟩⟩

/-- A declaration as it is written. -/
def declarationText (d : List Char × List Char) : List Char := d.1 ++ ':' :: ' ' :: d.2

/-- Declarations as a style. -/
def styleText (ds : List (List Char × List Char)) : List Char :=
  [';', ' '].intercalate (ds.map declarationText)

/-! ## One declaration -/

section

variable {d : List Char × List Char}

/-- A written declaration starts with its property and ends with its value. -/
theorem IsDeclaration.isTrimmed_text (h : IsDeclaration d) : IsTrimmed (declarationText d) where
  start := by
    intro c hc
    rw [declarationText, List.head?_append_of_ne_nil _ h.key_nonempty] at hc
    exact h.key_trimmed.start c hc
  stop := by
    intro c hc
    have htext : declarationText d = (d.1 ++ [':', ' ']) ++ d.2 := by simp [declarationText]
    rw [htext, List.getLast?_append_of_ne_nil _ h.value_nonempty] at hc
    exact h.value_trimmed.stop c hc

theorem IsDeclaration.semicolon_notMem_text (h : IsDeclaration d) : ';' ∉ declarationText d := by
  simp [declarationText, h.key_semicolon, h.value_semicolon]

/-- A written declaration is read again, be there white space before it or not. -/
theorem IsDeclaration.declaration?_text (h : IsDeclaration d) (before : List Char)
    (hbefore : ∀ c ∈ before, isBlankChar c = true) : declaration? (before ++ declarationText d) = some d := by
  have htrim : trim (before ++ declarationText d) = declarationText d := trim_append hbefore h.isTrimmed_text
  -- the first colon is the one after the property, so that colons in the value do not matter
  have hcut : cutAt ':' (declarationText d) = (d.1, ' ' :: d.2) := cutAt_append h.key_colon _
  have hvalue : trim (' ' :: d.2) = d.2 :=
    @trim_append [' '] d.2 (by simp [isBlankChar_space]) h.value_trimmed
  have hfilled : (d.1.isEmpty || d.2.isEmpty) = false := by
    simp [h.key_nonempty, h.value_nonempty]
  rw [declaration?, htrim, hcut]
  simp [trim_of_isTrimmed h.key_trimmed, hvalue, hfilled]

/-- What is read from a text without semicolons can be written. -/
theorem isDeclaration_of_declaration? {rule : List Char} (hrule : ';' ∉ rule) (h : declaration? rule = some d) :
    IsDeclaration d := by
  rw [declaration?] at h
  simp only [Option.ite_none_left_eq_some, Option.some.injEq, Bool.or_eq_true, List.isEmpty_iff, not_or] at h
  obtain ⟨⟨hkey, hvalue⟩, rfl⟩ := h
  -- nothing is in the parts that is not in the text, and no colon before the first one
  have hkeyPart : ∀ c ∈ trim (cutAt ':' (trim rule)).1, c ∈ (cutAt ':' (trim rule)).1 := by
    intro c hc
    exact trim_subset _ hc
  have hkeyRule : ∀ c ∈ trim (cutAt ':' (trim rule)).1, c ∈ rule := by
    intro c hc
    exact trim_subset rule (cutAt_fst_subset ':' _ (hkeyPart c hc))
  have hvalueRule : ∀ c ∈ trim (cutAt ':' (trim rule)).2, c ∈ rule := by
    intro c hc
    exact trim_subset rule (cutAt_snd_subset ':' _ (trim_subset _ hc))
  exact
    { key_nonempty := hkey
      key_trimmed := isTrimmed_trim _
      key_colon := fun hmem => separator_notMem_cutAt ':' (trim rule) (hkeyPart ':' hmem)
      key_semicolon := fun hmem => hrule (hkeyRule ';' hmem)
      value_nonempty := hvalue
      value_trimmed := isTrimmed_trim _
      value_semicolon := fun hmem => hrule (hvalueRule ';' hmem) }

end

/-! ## Styles -/

/-- Whatever a style holds, its declarations can be written. -/
theorem isDeclaration_of_mem_declarations {style : List Char} {d : List Char × List Char}
    (h : d ∈ declarations style) : IsDeclaration d := by
  obtain ⟨rule, hrule, hd⟩ := List.mem_filterMap.1 h
  refine isDeclaration_of_declaration? ?_ hd
  intro hmem
  have hnot := of_mem_pieces hrule ';' hmem
  simp at hnot

/-- A style is cut apart into the declarations that it has been put together from, all but the first with the
    space before them. -/
theorem pieces_styleText {d : List Char × List Char} {ds : List (List Char × List Char)}
    (h : ∀ e ∈ d :: ds, IsDeclaration e) : pieces (· = ';') (styleText (d :: ds)) =
      declarationText d :: ds.map fun e => ' ' :: declarationText e := by
  obtain ⟨hd, hds⟩ := List.forall_mem_cons.1 h
  have hjoined : styleText (d :: ds) =
      [';'].intercalate (declarationText d :: ds.map fun e => ' ' :: declarationText e) := by
    rw [styleText, List.map_cons, intercalate_cons_eq, List.map_map]
    rfl
  rw [hjoined]
  refine pieces_intercalate (by simp) (List.forall_mem_cons.2 ⟨hd.semicolon_notMem_text, ?_⟩)
  intro text htext
  obtain ⟨e, he, rfl⟩ := List.mem_map.1 htext
  simp [(hds e he).semicolon_notMem_text]

theorem declarations_styleText {ds : List (List Char × List Char)} (h : ∀ d ∈ ds, IsDeclaration d) :
    declarations (styleText ds) = ds := by
  cases ds with
  | nil => rfl
  | cons d ds =>
    obtain ⟨hd, hds⟩ := List.forall_mem_cons.1 h
    have hfirst : declaration? (declarationText d) = some d := hd.declaration?_text [] (by simp)
    have hothers : ∀ e ∈ ds, (declaration? ∘ fun e => ' ' :: declarationText e) e = some e := by
      intro e he
      exact (hds e he).declaration?_text [' '] (by simp [isBlankChar_space])
    rw [declarations, pieces_styleText h, List.filterMap_cons_some hfirst, List.filterMap_map,
      List.filterMap_congr hothers, List.filterMap_some]

/-- Reading a style undoes writing its declarations, for just the lists of declarations that can be written.
    What is read from a style, whatever it holds, is such a list, so that a style that has been read and written
    is read as the same list again. -/
theorem declarations_inverts_styleText (ds : List (List Char × List Char)) (style : List Char) :
    (declarations (styleText ds) = ds ↔ ∀ d ∈ ds, IsDeclaration d) ∧
      (∀ d ∈ declarations style, IsDeclaration d) ∧
      declarations (styleText (declarations style)) = declarations style := by
  have hread : ∀ d ∈ declarations style, IsDeclaration d := by
    intro d hd
    exact isDeclaration_of_mem_declarations hd
  refine ⟨⟨?written, declarations_styleText⟩, hread, declarations_styleText hread⟩
  case written =>
    intro heq d hd
    rw [← heq] at hd
    exact isDeclaration_of_mem_declarations hd

/-- Colons in a value and spaces inside of a property and a value, next to what is skipped: a part without a
    colon, one without a property and one whose value is white space only. -/
theorem declarations_inverts_styleText_colons :
    let ds := [("my key".toList, "url(http://a:1)".toList), ("margin".toList, "0\u00a0auto".toList)]
    let style := "my key:url(http://a:1);x; :y;z:\u3000;\u2028margin : 0\u00a0auto\t".toList
    (∀ d ∈ ds, IsDeclaration d) ∧ declarations (styleText ds) = ds ∧ declarations style = ds ∧
      declarations (styleText (declarations style)) = ds := by
  intro ds style
  have hds : ∀ d ∈ ds, IsDeclaration d := by decide
  have hstyle : declarations style = ds := by decide
  have hinverts := declarations_inverts_styleText ds style
  exact ⟨hds, hinverts.1.2 hds, hstyle, hinverts.2.2.trans hstyle⟩

end MarkupCleaner.Output
