import Mathlib.Tactic.Common
import MarkupCleaner.ClassRules.Engine

/-!
# Spelling named groups

What spelling named groups does to the lexemes of a pattern. It goes by the text alone: wherever a
parenthesis has `?<name>` after it, be the parenthesis escaped or not, a letter is put in after the question
mark, and nothing else changes.
-/

namespace MarkupCleaner

namespace ClassRules

open Pattern

/-! ## Where a named group starts -/

/-- A parenthesis, perhaps with a backslash before it. -/
def isParenthesis : Lexeme → Bool
  | .plain c | .escaped c => c = '('

theorem eq_of_isParenthesis {lexeme : Lexeme} (h : isParenthesis lexeme = true) :
    lexeme = .plain '(' ∨ lexeme = .escaped '(' := by
  cases lexeme with
  | plain c => simpa [isParenthesis] using h
  | escaped c => simpa [isParenthesis] using h

/-- Whether lexemes go on as a named group does after its parenthesis: `?<name>`. -/
def namesGroup : List Lexeme → Bool
  | .plain '?' :: .plain '<' :: .plain c :: rest =>
    (isLetter c || c = '_') && (rest.dropWhile (Lexeme.isPlain Unicode.isWord)).head? = some (.plain '>')
  | _ => false

/-- Whether lexemes start with what is spelled as a named group. -/
def startsGroup : List Lexeme → Bool
  | [] => false
  | lexeme :: rest => isParenthesis lexeme && namesGroup rest

/-- Lexemes with the letter of named groups put in after the first of them. -/
def withLetter : List Lexeme → List Lexeme
  | [] => []
  | lexeme :: rest => lexeme :: .plain 'P' :: rest

/-- Lexemes with every named group spelled the way of the pattern language. -/
def spelled : List Lexeme → List Lexeme
  | [] => []
  | lexeme :: rest =>
    lexeme :: if startsGroup (lexeme :: rest) then withLetter (spelled rest) else spelled rest

@[simp] theorem spelled_nil : spelled [] = [] := rfl

theorem spelled_cons (lexeme : Lexeme) (rest : List Lexeme) :
    spelled (lexeme :: rest) =
      lexeme :: if startsGroup (lexeme :: rest) then withLetter (spelled rest) else spelled rest := rfl

@[simp] theorem head?_spelled (left : List Lexeme) : (spelled left).head? = left.head? := by
  cases left <;> simp [spelled_cons]

@[simp] theorem spelled_eq_nil_iff {left : List Lexeme} : spelled left = [] ↔ left = [] := by
  cases left <;> simp [spelled_cons]

theorem spelled_of_not_startsGroup {lexeme : Lexeme} {rest : List Lexeme}
    (h : startsGroup (lexeme :: rest) = false) : spelled (lexeme :: rest) = lexeme :: spelled rest := by
  simp [spelled_cons, h]

theorem spelled_of_not_isParenthesis {lexeme : Lexeme} (rest : List Lexeme)
    (h : isParenthesis lexeme = false) : spelled (lexeme :: rest) = lexeme :: spelled rest := by
  apply spelled_of_not_startsGroup
  simp [startsGroup, h]

/-- What goes on as a named group starts with a question mark, an angle bracket and the first character of a
    name. -/
theorem exists_of_namesGroup {left : List Lexeme} (h : namesGroup left = true) :
    ∃ c rest, left = .plain '?' :: .plain '<' :: .plain c :: rest ∧ (isLetter c || c = '_') = true := by
  unfold namesGroup at h
  split at h
  · next c rest =>
    simp only [Bool.and_eq_true] at h
    exact ⟨c, rest, rfl, h.1⟩
  · cases h

/-! ## Lexemes of a spelled text -/

theorem lexemes_cons {c : Char} (cs : List Char) (h : c ≠ '\\') :
    lexemes (c :: cs) = (.plain c :: (lexemes cs).1, (lexemes cs).2) := by
  rw [lexemes]
  · rintro hc -
    exact h hc
  · rintro d ds hc -
    exact h hc

/-- A single character comes from the character. -/
theorem exists_of_lexemes_eq_plain {c : Char} {cs : List Char} {left : List Lexeme}
    (h : (lexemes cs).1 = .plain c :: left) : ∃ rest, cs = c :: rest ∧ (lexemes rest).1 = left := by
  revert h
  fun_cases lexemes cs with
  | case1 => simp
  | case2 => simp
  | case3 d ds => simp
  | case4 d ds =>
    rintro h
    obtain ⟨hd, hleft⟩ := List.cons.inj h
    exact ⟨ds, by rw [Lexeme.plain.inj hd], hleft⟩

theorem spellGroups_cons {c : Char} (cs : List Char) (h : c ≠ '(') :
    spellGroups (c :: cs) = c :: spellGroups cs := by
  rw [spellGroups]
  rintro rest rfl
  exact absurd rfl h

/-- The name of a group ends in the lexemes where it ends in the text. -/
theorem head?_dropWhile_lexemes (cs : List Char) :
    ((lexemes cs).1.dropWhile (Lexeme.isPlain Unicode.isWord)).head? = some (.plain '>') ↔
      (cs.dropWhile Unicode.isWord).head? = some '>' := by
  have hbackslash : Unicode.isWord '\\' = false := by decide
  fun_induction lexemes cs with
  | case1 => simp
  | case2 => simp [hbackslash]
  | case3 c cs ih => simp [Lexeme.isPlain, hbackslash]
  | case4 c cs hdangling hescape ih =>
    by_cases hc : Unicode.isWord c = true
    · simp [Lexeme.isPlain, hc, ih]
    · simp [Lexeme.isPlain, hc]

theorem isSome_groupNameEnd?_iff {cs : List Char} :
    (groupNameEnd? cs).isSome = true ↔
      ∃ c rest, cs = c :: rest ∧ (isLetter c || c = '_') = true ∧
        (rest.dropWhile Unicode.isWord).head? = some '>' := by
  unfold groupNameEnd?
  split
  · simp
  · next c rest =>
    split
    · next hc =>
      split
      · next after hend => simpa [hend] using hc
      · next hend =>
        have hnot : (rest.dropWhile Unicode.isWord).head? ≠ some '>' := by
          intro hhead
          obtain ⟨after, hafter⟩ := List.head?_eq_some_iff.1 hhead
          exact hend after hafter
        simp [hnot]
    · next hc =>
      refine iff_of_false Bool.false_ne_true ?_
      rintro ⟨d, ds, heq, hd, -⟩
      obtain ⟨rfl, rfl⟩ := List.cons.inj heq
      exact hc hd

theorem namesGroup_lexemes (cs : List Char) :
    namesGroup (lexemes ('?' :: '<' :: cs)).1 = (groupNameEnd? cs).isSome := by
  rw [lexemes_cons _ (by decide), lexemes_cons _ (by decide), Bool.eq_iff_iff, isSome_groupNameEnd?_iff]
  fun_cases lexemes cs with
  | case1 => simp [namesGroup]
  | case2 => simp [namesGroup, isLetter]
  | case3 c cs => simp [namesGroup, isLetter]
  | case4 c cs => simp [namesGroup, head?_dropWhile_lexemes]

/-- A named group in the lexemes comes from one in the text. -/
theorem exists_of_namesGroup_lexemes {cs : List Char} (h : namesGroup (lexemes cs).1 = true) :
    ∃ rest, cs = '?' :: '<' :: rest := by
  obtain ⟨c, left, hleft, -⟩ := exists_of_namesGroup h
  obtain ⟨more, rfl, hmore⟩ := exists_of_lexemes_eq_plain hleft
  obtain ⟨rest, rfl, -⟩ := exists_of_lexemes_eq_plain hmore
  exact ⟨rest, rfl⟩

theorem spellGroups_parenthesis (cs : List Char) :
    spellGroups ('(' :: cs) =
      '(' :: if namesGroup (lexemes cs).1 then '?' :: 'P' :: spellGroups cs.tail else spellGroups cs := by
  by_cases h : ∃ rest, cs = '?' :: '<' :: rest
  · obtain ⟨rest, rfl⟩ := h
    rw [namesGroup_lexemes, spellGroups, List.tail_cons, spellGroups_cons _ (by decide),
      spellGroups_cons _ (by decide)]
    split <;> rfl
  · have hnames : namesGroup (lexemes cs).1 = false := by
      rw [← Bool.not_eq_true]
      exact fun hnames => h (exists_of_namesGroup_lexemes hnames)
    rw [hnames, spellGroups]
    · rfl
    · rintro rest - rfl
      exact h ⟨rest, rfl⟩

/-- The text behind a parenthesis, with the letter in it if the parenthesis is that of a named group. -/
theorem lexemes_spellGroups_behind {cs : List Char}
    (h : lexemes (spellGroups cs) = (spelled (lexemes cs).1, (lexemes cs).2)) :
    lexemes (if namesGroup (lexemes cs).1 then '?' :: 'P' :: spellGroups cs.tail else spellGroups cs) =
      (if namesGroup (lexemes cs).1 then withLetter (spelled (lexemes cs).1) else spelled (lexemes cs).1,
        (lexemes cs).2) := by
  split
  · next hnames =>
    obtain ⟨rest, rfl⟩ := exists_of_namesGroup_lexemes hnames
    rw [spellGroups_cons _ (by decide), lexemes_cons _ (by decide)] at h
    obtain ⟨hleft, hdangling⟩ := Prod.mk.inj h
    rw [List.tail_cons, lexemes_cons _ (by decide), lexemes_cons _ (by decide), ← hleft]
    exact congrArg _ hdangling
  · exact h

/-- Spelling the groups of a text is spelling the groups of its lexemes. -/
theorem lexemes_spellGroups (cs : List Char) :
    lexemes (spellGroups cs) = (spelled (lexemes cs).1, (lexemes cs).2) := by
  fun_induction lexemes cs with
  | case1 => rfl
  | case2 => rfl
  | case3 c cs ih =>
    rw [spellGroups_cons _ (by decide)]
    by_cases hc : c = '('
    · subst hc
      rw [spellGroups_parenthesis, lexemes, lexemes_spellGroups_behind ih]
      rfl
    · rw [spellGroups_cons _ hc, lexemes, ih, spelled_of_not_isParenthesis _ (by simpa [isParenthesis] using hc)]
  | case4 c cs hdangling hescape ih =>
    have hbackslash : c ≠ '\\' := by
      rintro rfl
      cases cs with
      | nil => exact hdangling rfl rfl
      | cons d ds => exact hescape d ds rfl rfl
    by_cases hc : c = '('
    · subst hc
      rw [spellGroups_parenthesis, lexemes_cons _ hbackslash, lexemes_spellGroups_behind ih]
      rfl
    · rw [spellGroups_cons _ hc, lexemes_cons _ hbackslash, ih,
        spelled_of_not_isParenthesis _ (by simpa [isParenthesis] using hc)]

/-! ## Parts of a pattern -/

theorem length_le_length_withLetter (left : List Lexeme) : left.length ≤ (withLetter left).length := by
  cases left <;> simp [withLetter]

theorem length_le_length_spelled (left : List Lexeme) : left.length ≤ (spelled left).length := by
  induction left with
  | nil => simp
  | cons lexeme rest ih =>
    have hletter := length_le_length_withLetter (spelled rest)
    rw [spelled_cons, List.length_cons, List.length_cons]
    split <;> omega

/-- A part without a parenthesis stays as it is. -/
theorem spelled_append {used : List Lexeme} (rest : List Lexeme)
    (h : ∀ lexeme ∈ used, isParenthesis lexeme = false) : spelled (used ++ rest) = used ++ spelled rest := by
  induction used with
  | nil => rfl
  | cons lexeme used ih =>
    rw [List.forall_mem_cons] at h
    rw [List.cons_append, spelled_of_not_isParenthesis _ h.1, ih h.2, List.cons_append]

theorem spelled_eq_take_append {left : List Lexeme} {count : Nat}
    (h : ∀ lexeme ∈ left.take count, isParenthesis lexeme = false) :
    spelled left = left.take count ++ spelled (left.drop count) := by
  rw [← spelled_append _ h, List.take_append_drop]

theorem isParenthesis_of_isPlain {p : Char → Bool} {lexeme : Lexeme} (hp : p '(' = false)
    (h : lexeme.isPlain p = true) : isParenthesis lexeme = false := by
  rw [← Bool.not_eq_true]
  intro hparenthesis
  rcases eq_of_isParenthesis hparenthesis with rfl | rfl
  · exact absurd h (by simp [Lexeme.isPlain, hp])
  · cases h

/-- A run of characters other than parentheses stays as it is. -/
theorem takeWhile_take_spelled {p : Char → Bool} (hp : p '(' = false) (count : Nat) (left : List Lexeme) :
    ((spelled left).take count).takeWhile (Lexeme.isPlain p) =
      (left.take count).takeWhile (Lexeme.isPlain p) := by
  induction left generalizing count with
  | nil => simp
  | cons lexeme rest ih =>
    cases count with
    | zero => simp
    | succ count =>
      by_cases hlexeme : lexeme.isPlain p = true
      · rw [spelled_of_not_isParenthesis _ (isParenthesis_of_isPlain hp hlexeme), List.take_succ_cons, List.take_succ_cons,
          List.takeWhile_cons_of_pos hlexeme, List.takeWhile_cons_of_pos hlexeme, ih]
      · rw [spelled_cons, List.take_succ_cons, List.take_succ_cons, List.takeWhile_cons_of_neg hlexeme,
          List.takeWhile_cons_of_neg hlexeme]

/-- What is after a comment is spelled as it is without the comment: the end of a comment is no part of what
    names a group. -/
theorem dropWhile_spelled {stop : Char} (hmark : stop ≠ '?') (hletter : stop ≠ 'P') (left : List Lexeme) :
    (spelled left).dropWhile (· ≠ .plain stop) = spelled (left.dropWhile (· ≠ .plain stop)) := by
  induction left with
  | nil => rfl
  | cons lexeme rest ih =>
    by_cases hstop : lexeme = .plain stop
    · simp [spelled_cons, hstop]
    · rw [List.dropWhile_cons_of_pos (by simpa using hstop), spelled_cons,
        List.dropWhile_cons_of_pos (by simpa using hstop), ← ih]
      split
      · next hstarts =>
        simp only [startsGroup, Bool.and_eq_true] at hstarts
        obtain ⟨c, more, rfl, -⟩ := exists_of_namesGroup hstarts.2
        simp [spelled_cons, withLetter, hmark.symm, hletter.symm]
      · rfl

/-- No named group starts before `rest`. -/
def Untouched (left rest : List Lexeme) : Prop :=
  ∀ tail, tail <:+ left → rest.length < tail.length → startsGroup tail = false

theorem Untouched.left {left middle rest : List Lexeme} (h : Untouched left rest)
    (hrest : rest <:+ middle) : Untouched left middle :=
  fun tail htail hlength => h tail htail (Nat.lt_of_le_of_lt hrest.length_le hlength)

theorem Untouched.right {left middle rest : List Lexeme} (h : Untouched left rest)
    (hmiddle : middle <:+ left) : Untouched middle rest :=
  fun tail htail hlength => h tail (htail.trans hmiddle) hlength

/-- A part in which no named group starts stays as it is. -/
theorem Untouched.spelled_append {used rest : List Lexeme} (h : Untouched (used ++ rest) rest) :
    spelled (used ++ rest) = used ++ spelled rest := by
  induction used with
  | nil => rfl
  | cons lexeme used ih =>
    have hlength : rest.length < (lexeme :: (used ++ rest)).length := by
      rw [List.length_cons, List.length_append]
      omega
    have hstarts : startsGroup (lexeme :: (used ++ rest)) = false := h _ List.suffix_rfl hlength
    rw [List.cons_append, spelled_of_not_startsGroup hstarts, ih (h.right (List.suffix_cons _ _)),
      List.cons_append]

end ClassRules
end MarkupCleaner
