import Mathlib.Tactic.Common
import MarkupCleaner.Text.Blank

/-!
# The words of a text

A word is not empty and holds no white space. Texts put together with a space between them have the
words of all of them, and a text without white space is its own only word.
-/

namespace MarkupCleaner.Text

theorem pieces_eq_splitOnP (p : Char → Bool) (cs : List Char) : pieces p cs = cs.splitOnP p := by
  induction cs with
  | nil => rw [pieces, List.splitOnP_nil]
  | cons c cs ih =>
    rw [pieces, List.splitOnP_cons_eq_if_modifyHead, ← ih]
    by_cases hc : p c = true
    · rw [if_pos hc, if_pos hc]
    · rw [if_neg hc, if_neg hc]
      cases hpieces : pieces p cs with
      | nil => exact absurd hpieces (pieces_ne_nil p cs)
      | cons piece rest => rfl

/-- No character at which a text is cut is left in a piece. -/
theorem of_mem_pieces {p : Char → Bool} {cs piece : List Char} (h : piece ∈ pieces p cs) :
    ∀ c ∈ piece, p c = false := by
  induction cs generalizing piece with
  | nil =>
    obtain rfl := List.mem_singleton.1 h
    exact fun c hc => nomatch hc
  | cons d cs ih =>
    rw [pieces] at h
    by_cases hd : p d = true
    · rw [if_pos hd] at h
      rcases List.mem_cons.1 h with rfl | h
      · exact fun c hc => nomatch hc
      · exact ih h
    · rw [if_neg hd] at h
      cases hpieces : pieces p cs with
      | nil => exact absurd hpieces (pieces_ne_nil p cs)
      | cons first rest =>
        rw [hpieces] at h ih
        rcases List.mem_cons.1 h with rfl | h
        · exact List.forall_mem_cons.2 ⟨by simpa using hd, ih List.mem_cons_self⟩
        · exact ih (List.mem_cons_of_mem first h)

/-- White space separates the words before it from those after it. -/
theorem words_append_cons {c : Char} (hc : isBlankChar c = true) (cs ds : List Char) :
    words (cs ++ c :: ds) = words cs ++ words ds := by
  simp only [words, pieces_eq_splitOnP, List.splitOnP_append_cons cs ds hc, List.filter_append]

/-- A text that is not empty and holds no white space is its own only word. -/
theorem words_eq_singleton {cs : List Char} (hne : cs ≠ []) (h : ∀ c ∈ cs, isBlankChar c = false) :
    words cs = [cs] := by
  rw [words, pieces_eq_splitOnP, List.splitOnP_eq_singleton h]
  exact List.filter_cons_of_pos (by simpa using hne)

theorem not_blank_of_mem_words {cs word : List Char} (h : word ∈ words cs) :
    ∀ c ∈ word, isBlankChar c = false :=
  of_mem_pieces (List.mem_filter.1 h).1

/-- The words of texts with a space between them are the words of each of them. -/
theorem words_intercalate (texts : List (List Char)) :
    words ([' '].intercalate texts) = texts.flatMap words := by
  induction texts with
  | nil => rfl
  | cons text texts ih =>
    cases texts with
    | nil => simp [List.intercalate]
    | cons next texts =>
      have hjoined : [' '].intercalate (text :: next :: texts)
          = text ++ ' ' :: [' '].intercalate (next :: texts) := by
        rw [List.intercalate_cons_cons, List.append_assoc]
        rfl
      rw [hjoined, words_append_cons isBlankChar_space, ih, ← List.flatMap_cons]

end MarkupCleaner.Text
