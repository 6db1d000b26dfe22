import MarkupCleaner.Proofs.Data.Except
import MarkupCleaner.Proofs.Markup.Tokens

/-!
# What the tokenizer leaves

A step of the tokenizer that stops leaves an end of the text that it was given, as one that goes on does.
So wherever the tokenizer gets to, what is left there stands in the text, and so does the value of every
attribute.
-/

namespace MarkupCleaner.Markup

/-! ## Values of attributes -/

/-- A value stands in the text. One that starts with the equals sign before it may be apart from it. -/
def StandsIn (value cs : List Char) : Prop := value <:+: cs ∨ ∃ tail, value = '=' :: tail ∧ tail <:+: cs

theorem StandsIn.mono {value cs ds : List Char} (h : StandsIn value cs) (hcs : cs <:+: ds) :
    StandsIn value ds := by
  rcases h with h | ⟨tail, rfl, h⟩
  · exact Or.inl (h.trans hcs)
  · exact Or.inr ⟨tail, rfl, h.trans hcs⟩

theorem standsIn_of_valueFrom {spaced repeated : Bool} {cs value rest : List Char} {last : Char}
    (h : valueFrom? spaced repeated cs = some (value, last, rest)) : StandsIn value cs := by
  have hbare : cs.takeWhile isBareValueChar <:+: cs := (List.takeWhile_prefix _).isInfix
  have hnil : ([] : List Char) <:+: cs := (List.nil_prefix).isInfix
  unfold valueFrom? at h
  split at h
  · cases h
    exact Or.inl hnil
  · next c inner =>
    split at h
    · split at h
      · cases h
        exact Or.inl ((List.takeWhile_prefix _).isInfix.trans (List.suffix_cons _ inner).isInfix)
      · split at h
        · cases h
          exact Or.inl hnil
        · split at h
          · cases h
            exact Or.inr ⟨_, rfl, hbare⟩
          · cases h
    · cases h
      exact Or.inl hbare

theorem standsIn_of_writtenValue {cs value rest : List Char} {last : Char}
    (h : writtenValue? cs = some (value, last, rest)) : StandsIn value cs := by
  unfold writtenValue? at h
  split at h
  · next afterSign heq =>
    have hsign : afterSign <:+ cs := by
      refine (List.suffix_cons '=' afterSign).trans ?_
      rw [← heq]
      exact trimStart_suffix cs
    have hvalue : Text.trimStart (afterSign.dropWhile (· = '=')) <:+ cs :=
      ((trimStart_suffix _).trans (List.dropWhile_suffix _)).trans hsign
    exact (standsIn_of_valueFrom h).mono hvalue.isInfix
  · cases h

/-- The value of every attribute stands in the text. -/
theorem standsIn_of_mem_writtenAttributes (prev : Char) (cs : List Char) :
    ∀ w ∈ (writtenAttributes prev cs).1, ∀ value, w.value = some value → StandsIn value cs := by
  fun_induction writtenAttributes prev cs with
  | case1 => exact List.forall_mem_nil _
  | case2 prev c tail hstarts name hv gap more ih =>
    have htail : tail.dropWhile isAttributeNameChar <:+ c :: tail :=
      (List.dropWhile_suffix _).trans (List.suffix_cons c tail)
    have hgap := (skipGap_suffix (name.getLastD prev) _).trans htail
    refine List.forall_mem_cons.2 ⟨?_, fun w hw value hvalue => (ih w hw value hvalue).mono hgap.isInfix⟩
    rintro _ ⟨⟩
  | case3 prev c tail hstarts name value last afterValue hv gap more ih =>
    have hafter := suffix_of_writtenValue hv
    have htail : tail.dropWhile isAttributeNameChar <:+ c :: tail :=
      (List.dropWhile_suffix _).trans (List.suffix_cons c tail)
    have hgap := ((skipGap_suffix last afterValue).trans hafter).trans htail
    refine List.forall_mem_cons.2 ⟨?_, fun w hw value hvalue => (ih w hw value hvalue).mono hgap.isInfix⟩
    rintro _ ⟨⟩
    exact (standsIn_of_writtenValue hv).mono htail.isInfix
  | case4 => exact List.forall_mem_nil _

theorem standsIn_of_mem_tagParts {cs value : List Char} {w : WrittenAttribute} (hw : w ∈ (tagParts cs).1)
    (hvalue : w.value = some value) : StandsIn value cs := by
  have hgap := (skipGap_suffix ((cs.takeWhile fun c => !endsTagName c).getLastD '<')
    (cs.dropWhile fun c => !endsTagName c)).trans (List.dropWhile_suffix _)
  exact (standsIn_of_mem_writtenAttributes _ _ w hw value hvalue).mono hgap.isInfix

/-! ## Steps -/

/-- What is left after a step, whether it goes on or stops. -/
def Step.rest : Step → List Char
  | .next scanned => scanned.rest
  | .stop _ rest => rest

theorem eq_of_bracketed_stop {atEnd : Bool} {mode : Mode} {cs rest : List Char} {ts : List Token}
    (h : bracketed atEnd mode cs = .ok (.stop ts rest)) : rest = '<' :: cs := by
  obtain ⟨found, -, h⟩ := except_bind_eq_ok.1 h
  cases found with
  | some scanned => cases h
  | none =>
    dsimp only at h
    split at h
    · cases h
    · cases h
      rfl

theorem bracketed_rest_suffix {atEnd : Bool} {mode : Mode} {cs : List Char} {s : Step}
    (h : bracketed atEnd mode cs = .ok s) : s.rest <:+ '<' :: cs := by
  cases s with
  | next scanned => exact (suffix_of_bracketed h).trans (List.suffix_cons '<' cs)
  | stop ts rest =>
    obtain rfl := eq_of_bracketed_stop h
    exact List.suffix_refl _

theorem suffix_of_reference_stop {atEnd : Bool} {cs rest : List Char} {ts : List Token}
    (h : reference atEnd cs = .ok (.stop ts rest)) : rest <:+ '&' :: cs := by
  unfold reference at h
  split at h
  · next body =>
    split at h
    · cases h
    · cases h
    · split at h
      · cases h
        exact ⟨['&', '#'], rfl⟩
      · cases h
        exact List.suffix_refl _
  · split at h
    · cases h
    · split at h
      · cases h
        exact List.suffix_refl _
      · next c tail _ =>
        split at h
        · cases h
          split
          · exact List.suffix_cons _ _
          · exact List.suffix_refl _
        · cases h

theorem reference_rest_suffix {atEnd : Bool} {cs : List Char} {s : Step}
    (h : reference atEnd cs = .ok s) : s.rest <:+ '&' :: cs := by
  cases s with
  | next scanned => exact (suffix_of_reference h).trans (List.suffix_cons '&' cs)
  | stop ts rest => exact suffix_of_reference_stop h

/-- A step leaves an end of the text that it was given. -/
theorem suffix_of_step {atEnd : Bool} {mode : Mode} {cs : List Char} {s : Step}
    (h : step atEnd mode cs = .ok s) : s.rest <:+ cs := by
  unfold step at h
  split at h
  · split at h
    · cases h
      exact List.suffix_refl _
    · next hsearch =>
      obtain ⟨tail, rfl, hend, -⟩ := search_spec hsearch
      obtain ⟨body, rfl⟩ := exists_of_rawTextEnd hend
      exact bracketed_rest_suffix h
    · cases h
      exact List.drop_suffix _ cs
  · split at h
    · cases h
      exact List.suffix_refl _
    · next c tail =>
      split at h
      · next hc =>
        rw [hc]
        exact bracketed_rest_suffix h
      · split at h
        · next hc =>
          rw [hc]
          exact reference_rest_suffix h
        · cases h
          exact (List.dropWhile_suffix _).trans (List.suffix_cons c tail)

end MarkupCleaner.Markup
