import MarkupCleaner.Proofs.Data.Runs
import MarkupCleaner.Proofs.Text.Words
import MarkupCleaner.Text.Split

/-!
# Cutting apart what was put together

Texts with a separator between them are cut apart again into these texts, if none of them holds the
separator: a character, an arrow or the end of a line.
-/

namespace MarkupCleaner.Text

/-- What does not separate is in a piece. -/
theorem exists_mem_pieces {p : Char → Bool} {c : Char} {cs : List Char} (h : c ∈ cs) (hc : p c = false) :
    ∃ piece ∈ pieces p cs, c ∈ piece := by
  fun_induction pieces p cs with
  | case1 => cases h
  | case2 d cs hd ih =>
    rcases List.mem_cons.1 h with rfl | hmem
    · rw [hd] at hc
      cases hc
    · obtain ⟨piece, hpiece, hin⟩ := ih hmem
      exact ⟨piece, List.mem_cons_of_mem _ hpiece, hin⟩
  | case3 d cs hd hnil ih => exact absurd hnil (pieces_ne_nil p cs)
  | case4 d cs hd first rest hpieces ih =>
    rcases List.mem_cons.1 h with rfl | hmem
    · exact ⟨c :: first, List.mem_cons_self, List.mem_cons_self⟩
    · obtain ⟨piece, hpiece, hin⟩ := ih hmem
      rw [hpieces] at hpiece
      rcases List.mem_cons.1 hpiece with rfl | hpiece
      · exact ⟨d :: piece, List.mem_cons_self, List.mem_cons_of_mem _ hin⟩
      · exact ⟨piece, List.mem_cons_of_mem _ hpiece, hin⟩

/-- Texts with a character between them that none of them holds. -/
theorem pieces_intercalate {c : Char} {texts : List (List Char)} (hne : texts ≠ [])
    (h : ∀ text ∈ texts, c ∉ text) : pieces (· = c) ([c].intercalate texts) = texts := by
  rw [pieces_eq_splitOnP]
  exact List.splitOn_intercalate c h hne

/-- Text behind a separator belongs to the piece after it. -/
theorem intercalate_cons_eq (c : Char) (lead text : List Char) (texts : List (List Char)) :
    (c :: lead).intercalate (text :: texts) = [c].intercalate (text :: texts.map (lead ++ ·)) := by
  induction texts generalizing text with
  | nil => rfl
  | cons next texts ih =>
    rw [List.map_cons, List.intercalate_cons_cons, List.intercalate_cons_cons, ih]
    cases texts with
    | nil => simp
    | cons another texts => simp [List.intercalate_cons_cons]

/-! ## The first separator -/

/-- A separator in front of others and of more text. -/
theorem cutAt_append {separator : Char} {cs : List Char} (h : separator ∉ cs) (rest : List Char) :
    cutAt separator (cs ++ separator :: rest) = (cs, rest) := by
  rw [cutAt, takeWhile_ne_append h, dropWhile_ne_append h, List.drop_one, List.tail_cons]

theorem separator_notMem_cutAt (separator : Char) (cs : List Char) : separator ∉ (cutAt separator cs).1 := by
  intro hmem
  have hne : decide (separator ≠ separator) = true :=
    List.all_eq_true.1 List.all_takeWhile separator hmem
  exact absurd rfl (of_decide_eq_true hne)

theorem cutAt_fst_subset (separator : Char) (cs : List Char) : (cutAt separator cs).1 ⊆ cs :=
  (List.takeWhile_prefix _).subset

theorem cutAt_snd_subset (separator : Char) (cs : List Char) : (cutAt separator cs).2 ⊆ cs :=
  ((List.drop_suffix 1 _).trans (List.dropWhile_suffix _)).subset

/-! ## Arrows -/

/-- The mark between the two sides of a rename. -/
def arrow : List Char := ['-', '>']

theorem arrowPieces_ne_nil (cs : List Char) : arrowPieces cs ≠ [] := by
  fun_cases arrowPieces cs <;> simp

/-- A character that starts no arrow belongs to the first piece. -/
theorem arrowPieces_cons {c : Char} {cs : List Char} (h : ¬arrow <+: c :: cs) :
    arrowPieces (c :: cs) = (arrowPieces cs).modifyHead (c :: ·) := by
  cases cs with
  | nil => rfl
  | cons d cs =>
    have hpair : c = '-' → d = '>' → False := by
      rintro rfl rfl
      exact h ⟨cs, rfl⟩
    rw [arrowPieces]
    · cases hpieces : arrowPieces (d :: cs) with
      | nil => exact absurd hpieces (arrowPieces_ne_nil _)
      | cons piece rest => rfl
    · exact hpair

/-- A text without an arrow is one piece, and an arrow after it ends the piece. -/
theorem arrowPieces_append {cs : List Char} (h : ¬arrow <:+: cs) (rest : List Char) :
    arrowPieces (cs ++ arrow ++ rest) = cs :: arrowPieces rest := by
  induction cs with
  | nil => rfl
  | cons c cs ih =>
    rw [List.infix_cons_iff, not_or] at h
    have hstart : ¬arrow <+: c :: (cs ++ arrow ++ rest) := by
      intro hprefix
      cases cs with
      | nil =>
        -- the arrow behind a hyphen starts with another hyphen
        simp [arrow] at hprefix
      | cons d cs => exact h.1 (by simpa [arrow] using hprefix)
    rw [List.cons_append, List.cons_append, arrowPieces_cons hstart, ih h.2, List.modifyHead_cons]

theorem arrowPieces_eq_singleton {cs : List Char} (h : ¬arrow <:+: cs) : arrowPieces cs = [cs] := by
  induction cs with
  | nil => rfl
  | cons c cs ih =>
    rw [List.infix_cons_iff, not_or] at h
    rw [arrowPieces_cons h.1, ih h.2, List.modifyHead_cons]

/-- Texts with arrows between them that hold no arrow themselves. -/
theorem arrowPieces_intercalate {texts : List (List Char)} (hne : texts ≠ [])
    (h : ∀ text ∈ texts, ¬arrow <:+: text) : arrowPieces (arrow.intercalate texts) = texts := by
  induction texts with
  | nil => exact absurd rfl hne
  | cons text texts ih =>
    rw [List.forall_mem_cons] at h
    cases texts with
    | nil =>
      rw [List.intercalate_singleton]
      exact arrowPieces_eq_singleton h.1
    | cons next texts =>
      rw [List.intercalate_cons_cons, arrowPieces_append h.1, ih (by simp) h.2]

/-! ## Lines -/

/-- A text that is a part of one line. -/
def IsInLine (cs : List Char) : Prop := ∀ c ∈ cs, isLineEnd c = false

theorem isInLine_iff {cs : List Char} : IsInLine cs ↔ cs.all (!isLineEnd ·) = true := by
  simp [IsInLine]

instance : DecidablePred IsInLine := fun _ => decidable_of_iff _ isInLine_iff.symm

theorem linePieces_ne_nil (cs : List Char) : linePieces cs ≠ [] := by
  fun_cases linePieces cs <;> simp

/-- A character that ends no line belongs to the first one. -/
theorem linePieces_cons {c : Char} (h : isLineEnd c = false) (cs : List Char) :
    linePieces (c :: cs) = (linePieces cs).modifyHead (c :: ·) := by
  conv_lhs => unfold linePieces
  split
  · next heq => cases heq
  · next rest heq =>
    obtain ⟨rfl, -⟩ := List.cons.inj heq
    exact absurd h (by decide)
  · next d ds _ heq =>
    obtain ⟨rfl, rfl⟩ := List.cons.inj heq
    rw [if_neg (by simp [h])]
    cases hpieces : linePieces cs with
    | nil => exact absurd hpieces (linePieces_ne_nil cs)
    | cons line rest => rfl

theorem linePieces_append {cs : List Char} (h : IsInLine cs) (rest : List Char) :
    linePieces (cs ++ '\n' :: rest) = cs :: linePieces rest := by
  induction cs with
  | nil => rfl
  | cons c cs ih =>
    obtain ⟨hc, hcs⟩ := List.forall_mem_cons.1 h
    rw [List.cons_append, linePieces_cons hc, ih hcs, List.modifyHead_cons]

theorem linePieces_eq_singleton {cs : List Char} (h : IsInLine cs) : linePieces cs = [cs] := by
  induction cs with
  | nil => rfl
  | cons c cs ih =>
    obtain ⟨hc, hcs⟩ := List.forall_mem_cons.1 h
    rw [linePieces_cons hc, ih hcs, List.modifyHead_cons]

theorem linePieces_intercalate {texts : List (List Char)} (hne : texts ≠ [])
    (h : ∀ text ∈ texts, IsInLine text) : linePieces (['\n'].intercalate texts) = texts := by
  induction texts with
  | nil => exact absurd rfl hne
  | cons text texts ih =>
    rw [List.forall_mem_cons] at h
    cases texts with
    | nil =>
      rw [List.intercalate_singleton]
      exact linePieces_eq_singleton h.1
    | cons next texts =>
      rw [List.intercalate_cons_cons, List.append_assoc, List.singleton_append, linePieces_append h.1,
        ih (by simp) h.2]

/-- Texts that are written one per line are the lines, if none of them is empty. -/
theorem lines_intercalate {texts : List (List Char)} (hne : [] ∉ texts)
    (h : ∀ text ∈ texts, IsInLine text) : lines (['\n'].intercalate texts) = texts := by
  cases texts with
  | nil => rfl
  | cons text texts =>
    have hlast : (text :: texts).getLast? ≠ some [] := by
      intro heq
      exact hne (List.mem_of_getLast? heq)
    rw [lines, linePieces_intercalate (by simp) h]
    exact if_neg hlast

end MarkupCleaner.Text
