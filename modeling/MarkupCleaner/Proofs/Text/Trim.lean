import Mathlib.Data.List.DropRight
import Mathlib.Data.List.TakeWhile
import MarkupCleaner.Text.Blank

/-!
# Trimming

Trimming takes white space off the ends of a text and nothing else.
-/

namespace MarkupCleaner.Text

theorem trimEnd_eq_rdropWhile (cs : List Char) : trimEnd cs = cs.rdropWhile isBlankChar := rfl

theorem trim_infix (cs : List Char) : trim cs <:+: cs := by
  have hend : trim cs <+: trimStart cs := List.rdropWhile_prefix isBlankChar _
  exact hend.isInfix.trans (List.dropWhile_suffix isBlankChar).isInfix

theorem trim_subset (cs : List Char) : trim cs ⊆ cs := ( trim_infix cs).subset

theorem trimStart_cons_of_not_blank {c : Char} (hc : isBlankChar c = false) (cs : List Char) :
    trimStart (c :: cs) = c :: cs :=
  List.dropWhile_cons_of_neg (by simp [hc])

theorem trimEnd_concat_of_not_blank {c : Char} (hc : isBlankChar c = false) (cs : List Char) :
    trimEnd (cs ++ [c]) = cs ++ [c] :=
  List.rdropWhile_concat_neg _ _ c (by simp [hc])

/-- A text that starts and ends with something else than white space is trimmed already. -/
theorem trim_eq_self {c d : Char} (hc : isBlankChar c = false) (hd : isBlankChar d = false)
    (cs : List Char) : trim (c :: cs ++ [d]) = c :: cs ++ [d] := by
  rw [trim, List.cons_append, trimStart_cons_of_not_blank hc, ← List.cons_append,
    trimEnd_concat_of_not_blank hd]

/-- A text that neither starts nor ends with white space. -/
structure IsTrimmed (cs : List Char) : Prop where
  start : ∀ c ∈ cs.head?, isBlankChar c = false
  stop : ∀ c ∈ cs.getLast?, isBlankChar c = false

theorem isTrimmed_iff {cs : List Char} :
    IsTrimmed cs ↔ cs.head?.all (!isBlankChar ·) = true ∧ cs.getLast?.all (!isBlankChar ·) = true := by
  simp only [Option.all_eq_true, Bool.not_eq_true']
  exact ⟨fun h => ⟨h.start, h.stop⟩, fun h => ⟨h.1, h.2⟩⟩

instance : DecidablePred IsTrimmed := fun _ => decidable_of_iff _ isTrimmed_iff.symm

/-- White space around a trimmed text is all that trimming takes off. -/
theorem trim_append_append {before cs after : List Char} (hbefore : ∀ c ∈ before, isBlankChar c = true)
    (h : IsTrimmed cs) (hafter : ∀ c ∈ after, isBlankChar c = true) : trim (before ++ cs ++ after) = cs := by
  have hstart : trimStart (before ++ cs ++ after) = trimStart (cs ++ after) := by
    rw [trimStart, List.append_assoc, List.dropWhile_append_of_pos hbefore]
    rfl
  have hend : trimEnd (cs ++ after) = trimEnd cs := by
    have hreverse : ∀ c ∈ after.reverse, isBlankChar c = true := fun c hc => hafter c (List.mem_reverse.1 hc)
    rw [trimEnd, List.reverse_append, List.dropWhile_append_of_pos hreverse]
    rfl
  rw [trim, hstart]
  cases cs with
  | nil =>
    rw [List.nil_append, trimStart, List.dropWhile_eq_nil_iff.2 hafter]
    rfl
  | cons c cs =>
    have hlast : isBlankChar ((c :: cs).getLast (by simp)) = false :=
      h.stop _ (List.getLast?_eq_some_getLast _)
    rw [List.cons_append, trimStart_cons_of_not_blank (h.start c rfl), ← List.cons_append, hend,
      trimEnd_eq_rdropWhile, List.rdropWhile_eq_self_iff.2]
    intro _
    simp [hlast]

theorem trim_append {before cs : List Char} (hbefore : ∀ c ∈ before, isBlankChar c = true) (h : IsTrimmed cs) :
    trim (before ++ cs) = cs := by
  have hpadded := @trim_append_append before cs [] hbefore h (by simp)
  rwa [List.append_nil] at hpadded

theorem trim_of_isTrimmed {cs : List Char} (h : IsTrimmed cs) : trim cs = cs :=
  @trim_append [] cs (by simp) h

/-- What is left when a text has been trimmed is trimmed. -/
theorem isTrimmed_trim (cs : List Char) : IsTrimmed (trim cs) where
  start := by
    intro c hc
    obtain ⟨rest, hrest⟩ := List.head?_eq_some_iff.1 hc
    obtain ⟨after, hafter⟩ : trim cs <+: trimStart cs := List.rdropWhile_prefix isBlankChar _
    have hhead := List.head?_dropWhile_not isBlankChar cs
    rw [← trimStart, ← hafter, hrest] at hhead
    exact hhead
  stop := by
    intro c hc
    have hne : trim cs ≠ [] := by
      intro hnil
      rw [hnil] at hc
      cases hc
    obtain rfl : (trim cs).getLast hne = c := by
      rwa [Option.mem_def, List.getLast?_eq_some_getLast hne, Option.some.injEq] at hc
    exact eq_false_of_ne_true (List.rdropWhile_last_not isBlankChar (trimStart cs) hne)

theorem mem_dropWhile_of_not {α : Type} {p : α → Bool} {x : α} {xs : List α} (h : x ∈ xs) (hx : p x = false) :
    x ∈ xs.dropWhile p := by
  rw [← List.takeWhile_append_dropWhile (p := p) (l := xs), List.mem_append] at h
  refine h.resolve_left fun htake => ?_
  rw [List.mem_takeWhile_imp htake] at hx
  cases hx

/-- Trimming keeps everything that is no white space. -/
theorem mem_trim_of_not_blank {c : Char} {cs : List Char} (h : c ∈ cs) (hc : isBlankChar c = false) :
    c ∈ trim cs := by
  have hstart : c ∈ trimStart cs := mem_dropWhile_of_not h hc
  have hend : c ∈ (trimStart cs).reverse.dropWhile isBlankChar :=
    mem_dropWhile_of_not (List.mem_reverse.2 hstart) hc
  exact List.mem_reverse.2 hend

end MarkupCleaner.Text
