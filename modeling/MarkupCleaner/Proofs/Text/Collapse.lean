import Mathlib.Tactic.Common
import MarkupCleaner.Text.Blank

/-!
# Collapsed white space

Collapsing does not change whether a text is blank, and a collapsed text stays as it is.
-/

namespace MarkupCleaner.Text

theorem collapse_cons_of_not_blank {c : Char} (h : isBlankChar c = false) (cs : List Char) :
    collapse (c :: cs) = c :: collapse cs := by
  rw [collapse, if_neg (by rw [h]; exact Bool.false_ne_true)]

/-- White space in front of collapsed text that starts with a space is taken up by that space. -/
theorem collapse_cons_of_space {c : Char} (h : isBlankChar c = true) {cs rest : List Char}
    (hcs : collapse cs = ' ' :: rest) : collapse (c :: cs) = ' ' :: rest := by
  rw [collapse, if_pos h, hcs]
  rfl

theorem collapse_cons_of_ne_space {c : Char} (h : isBlankChar c = true) {cs : List Char}
    (hcs : ∀ rest, collapse cs ≠ ' ' :: rest) : collapse (c :: cs) = ' ' :: collapse cs := by
  rw [collapse, if_pos h]
  split
  · next rest heq => exact absurd heq (hcs rest)
  · rfl

theorem all_isBlankChar_collapse (cs : List Char) :
    (collapse cs).all isBlankChar = cs.all isBlankChar := by
  induction cs with
  | nil => rfl
  | cons c cs ih =>
    by_cases hc : isBlankChar c = true
    · by_cases hspace : ∃ rest, collapse cs = ' ' :: rest
      · obtain ⟨rest, hrest⟩ := hspace
        rw [collapse_cons_of_space hc hrest, ← hrest, ih, List.all_cons, hc, Bool.true_and]
      · rw [collapse_cons_of_ne_space hc (not_exists.1 hspace), List.all_cons, List.all_cons, ih, hc,
          isBlankChar_space]
    · have hfalse : isBlankChar c = false := by simpa using hc
      rw [collapse_cons_of_not_blank hfalse, List.all_cons, List.all_cons, ih]

theorem collapse_collapse (cs : List Char) : collapse (collapse cs) = collapse cs := by
  induction cs with
  | nil => rfl
  | cons c cs ih =>
    by_cases hc : isBlankChar c = true
    · by_cases hspace : ∃ rest, collapse cs = ' ' :: rest
      · obtain ⟨rest, hrest⟩ := hspace
        rw [collapse_cons_of_space hc hrest, ← hrest, ih]
      · rw [collapse_cons_of_ne_space hc (not_exists.1 hspace),
          collapse_cons_of_ne_space isBlankChar_space (by rw [ih]; exact not_exists.1 hspace), ih]
    · have hfalse : isBlankChar c = false := by simpa using hc
      rw [collapse_cons_of_not_blank hfalse, collapse_cons_of_not_blank hfalse, ih]

@[simp] theorem isBlank_collapsed (s : String) : isBlank (collapsed s) = isBlank s := by
  rw [isBlank, toList_collapsed, all_isBlankChar_collapse]
  rfl

@[simp] theorem collapsed_collapsed (s : String) : collapsed (collapsed s) = collapsed s := by
  rw [collapsed, toList_collapsed, collapse_collapse]
  rfl

end MarkupCleaner.Text
