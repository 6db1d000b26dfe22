import Mathlib.Data.List.TakeWhile
import Mathlib.Tactic.Common
import MarkupCleaner.Markup.Tokenize
import MarkupCleaner.Output.Render

/-!
# Escaped characters read back

Text and attribute values are written with a handful of characters escaped. In a value the references
are decoded in one go; in text every reference is a token of its own, and what stands between two
references is one token. Either way the characters that were written come back.
-/

namespace MarkupCleaner.Markup

open Output

/-- The characters of a text after escaping. -/
def escapedText (cs : List Char) : List Char := cs.flatMap escapeTextChar

/-- The characters of an attribute value after escaping. -/
def escapedValue (cs : List Char) : List Char := cs.flatMap escapeValueChar

@[simp] theorem toList_escapeText (value : String) :
    (escapeText value).toList = escapedText value.toList := by
  simp [escapeText, escapedText]

@[simp] theorem toList_escapeValue (value : String) :
    (escapeValue value).toList = escapedValue value.toList := by
  simp [escapeValue, escapedValue]

/-! ## Text -/

/-- A character that is written as it is. -/
def isUnescaped (c : Char) : Bool := !(c = '&' || c = '<' || c = '>')

theorem escapeTextChar_of_unescaped {c : Char} (h : isUnescaped c) : escapeTextChar c = [c] := by
  simp only [isUnescaped, Bool.not_eq_true', Bool.or_eq_false_iff, decide_eq_false_iff_not] at h
  rw [escapeTextChar, if_neg h.1.1, if_neg h.1.2, if_neg h.2]

theorem eq_of_not_isUnescaped {c : Char} (h : ¬isUnescaped c = true) : c = '&' ∨ c = '<' ∨ c = '>' := by
  simpa only [isUnescaped, Bool.not_eq_true, Bool.not_eq_false', Bool.or_eq_true, decide_eq_true_eq,
    or_assoc] using h

theorem escapedText_cons (c : Char) (cs : List Char) :
    escapedText (c :: cs) = escapeTextChar c ++ escapedText cs := List.flatMap_cons

theorem escapedText_append (cs ds : List Char) :
    escapedText (cs ++ ds) = escapedText cs ++ escapedText ds := List.flatMap_append

/-- Text that needs no escapes is written as it is. -/
theorem escapedText_of_unescaped {cs : List Char} (h : ∀ c ∈ cs, isUnescaped c = true) :
    escapedText cs = cs := by
  induction cs with
  | nil => rfl
  | cons c cs ih =>
    rw [escapedText_cons, escapeTextChar_of_unescaped (h c List.mem_cons_self)]
    exact congrArg (c :: ·) (ih fun d hd => h d (List.mem_cons_of_mem c hd))

/-- Escaped text starts with the characters that need no escape, as they are. -/
theorem escapedText_split (cs : List Char) :
    escapedText cs = cs.takeWhile isUnescaped ++ escapedText (cs.dropWhile isUnescaped) := by
  have hall : ∀ c ∈ cs.takeWhile isUnescaped, isUnescaped c = true :=
    fun c hc => List.mem_takeWhile_imp hc
  calc escapedText cs
      = escapedText (cs.takeWhile isUnescaped ++ cs.dropWhile isUnescaped) := by
        rw [List.takeWhile_append_dropWhile]
    _ = cs.takeWhile isUnescaped ++ escapedText (cs.dropWhile isUnescaped) := by
        rw [escapedText_append, escapedText_of_unescaped hall]

/-- Escaping takes nothing away. -/
theorem length_le_length_escapedText (cs : List Char) : cs.length ≤ (escapedText cs).length := by
  have hchar : ∀ c, 1 ≤ (escapeTextChar c).length := by
    intro c
    unfold escapeTextChar
    split_ifs <;> simp
  induction cs with
  | nil => exact Nat.le_refl 0
  | cons c cs ih =>
    have hc := hchar c
    rw [escapedText_cons, List.length_append, List.length_cons]
    omega

theorem escapeText_ne_empty {value : String} (h : value ≠ "") : escapeText value ≠ "" := by
  intro hempty
  have hlength := length_le_length_escapedText value.toList
  rw [← toList_escapeText, hempty, String.toList_empty, List.length_nil, Nat.le_zero,
    List.length_eq_zero_iff, String.toList_eq_nil_iff] at hlength
  exact h hlength

/-- No opening bracket is left in escaped text. -/
theorem bracket_notMem_escapedText (cs : List Char) : '<' ∉ escapedText cs := by
  intro hmem
  obtain ⟨c, -, hc⟩ := List.mem_flatMap.1 hmem
  unfold escapeTextChar at hc
  split_ifs at hc with hamp hlt hgt
  · exact absurd hc (by decide)
  · exact absurd hc (by decide)
  · exact absurd hc (by decide)
  · exact hlt (List.mem_singleton.1 hc).symm

/-- A text that escaping does not lengthen needs no escapes. -/
theorem unescaped_of_length_le {cs : List Char} (h : (escapedText cs).length ≤ cs.length) :
    ∀ c ∈ cs, isUnescaped c = true := by
  induction cs with
  | nil => exact List.forall_mem_nil _
  | cons c cs ih =>
    have hcs := length_le_length_escapedText cs
    rw [escapedText_cons, List.length_append, List.length_cons] at h
    by_cases hc : isUnescaped c = true
    · rw [escapeTextChar_of_unescaped hc, List.length_singleton] at h
      exact List.forall_mem_cons.2 ⟨hc, ih (by omega)⟩
    · have hlong : 4 ≤ (escapeTextChar c).length := by
        rcases eq_of_not_isUnescaped hc with rfl | rfl | rfl <;> decide
      omega

/-- Text that needs escapes holds an ampersand once it is escaped. -/
theorem amp_mem_escapedText {cs : List Char} (h : ¬∀ c ∈ cs, isUnescaped c = true) :
    '&' ∈ escapedText cs := by
  simp only [not_forall] at h
  obtain ⟨c, hc, hescape⟩ := h
  refine List.mem_flatMap.2 ⟨c, hc, ?_⟩
  rcases eq_of_not_isUnescaped hescape with rfl | rfl | rfl <;> decide

theorem escapeText_eq_self_iff {value : String} :
    escapeText value = value ↔ ∀ c ∈ value.toList, isUnescaped c = true := by
  rw [← String.toList_inj, toList_escapeText]
  exact ⟨fun h => unescaped_of_length_le (Nat.le_of_eq (congrArg List.length h)), escapedText_of_unescaped⟩

/-! ## Attribute values -/

theorem decodeValue_cons {c : Char} (h : c ≠ '&') (cs : List Char) :
    decodeValue (c :: cs) = (c :: ·) <$> decodeValue cs := by
  rw [decodeValue, if_neg h]
  rfl

/-- A reference that a value contains decodes to its text. -/
theorem decodeValue_reference (cs : List Char) (r : ValueReference) {rest text : List Char}
    (hr : valueReference? cs = some (r, rest)) (ht : r.text = .ok text) :
    decodeValue ('&' :: cs) = (text ++ ·) <$> decodeValue rest := by
  rw [decodeValue, if_pos rfl]
  split
  · next r' rest' heq =>
    rw [hr] at heq
    obtain ⟨rfl, rfl⟩ := Prod.mk.inj (Option.some.inj heq)
    rw [ht]
    rfl
  · next heq =>
    rw [hr] at heq
    cases heq

theorem decodeValue_escapeValueChar (c : Char) (cs : List Char) :
    decodeValue (escapeValueChar c ++ cs) = (c :: ·) <$> decodeValue cs := by
  unfold escapeValueChar escapeTextChar
  split_ifs with hquot hamp hlt hgt
  · subst hquot
    exact decodeValue_reference ("quot;".toList ++ cs) (.named "quot".toList true)
      rfl rfl
  · subst hamp
    exact decodeValue_reference ("amp;".toList ++ cs) (.named "amp".toList true) rfl rfl
  · subst hlt
    exact decodeValue_reference ("lt;".toList ++ cs) (.named "lt".toList true) rfl rfl
  · subst hgt
    exact decodeValue_reference ("gt;".toList ++ cs) (.named "gt".toList true) rfl rfl
  · exact decodeValue_cons hamp cs

/-- Decoding an escaped value gives the value. -/
theorem decodeValue_escapedValue (cs : List Char) : decodeValue (escapedValue cs) = .ok cs := by
  induction cs with
  | nil =>
    rw [escapedValue, List.flatMap_nil, decodeValue]
  | cons c cs ih =>
    rw [escapedValue, List.flatMap_cons, decodeValue_escapeValueChar]
    change (c :: ·) <$> decodeValue (escapedValue cs) = _
    rw [ih]
    rfl

/-- No double quote is left in an escaped value. -/
theorem quote_notMem_escapedValue (cs : List Char) : '"' ∉ escapedValue cs := by
  intro hmem
  obtain ⟨c, -, hc⟩ := List.mem_flatMap.1 hmem
  unfold escapeValueChar escapeTextChar at hc
  split_ifs at hc with hquot hamp hlt hgt
  · exact absurd hc (by decide)
  · exact absurd hc (by decide)
  · exact absurd hc (by decide)
  · exact absurd hc (by decide)
  · exact hquot (List.mem_singleton.1 hc).symm

end MarkupCleaner.Markup
