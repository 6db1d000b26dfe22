import Mathlib.Data.List.Nodup
import Mathlib.Tactic.Common
import MarkupCleaner.Proofs.Text.Words
import MarkupCleaner.Tree.Attribute

/-!
# Class tokens

What reading the class attribute gives, and what reading it gives after tokens have been written to it:
the words of these tokens, each at its first place. They are the tokens themselves exactly if none of
them holds white space.
-/

namespace MarkupCleaner.Attributes

/-! ## Distinct tokens -/

theorem mem_distinctTokens_go {token : String} {seen tokens : List String} :
    token ∈ distinctTokens.go seen tokens ↔ token ∈ tokens ∧ token ≠ "" ∧ token ∉ seen := by
  induction tokens generalizing seen with
  | nil => simp [distinctTokens.go]
  | cons first rest ih =>
    rw [distinctTokens.go]
    by_cases hskip : first = "" ∨ first ∈ seen
    · rw [if_pos hskip, ih, List.mem_cons]
      refine ⟨fun h => ⟨Or.inr h.1, h.2⟩, fun ⟨hmem, hne, hseen⟩ => ⟨?_, hne, hseen⟩⟩
      refine hmem.resolve_left ?_
      rintro rfl
      exact hskip.elim hne hseen
    · rw [if_neg hskip, List.mem_cons, ih, List.mem_cons, List.mem_cons, not_or]
      rw [not_or] at hskip
      by_cases hfirst : token = first
      · subst hfirst
        simp [hskip]
      · simp [hfirst]

/-- The tokens of a list that are kept are those that are not empty. -/
theorem mem_distinctTokens {token : String} {tokens : List String} :
    token ∈ distinctTokens tokens ↔ token ∈ tokens ∧ token ≠ "" := by
  rw [distinctTokens, mem_distinctTokens_go]
  simp

theorem nodup_distinctTokens_go (seen tokens : List String) :
    (distinctTokens.go seen tokens).Nodup := by
  induction tokens generalizing seen with
  | nil => exact List.nodup_nil
  | cons first rest ih =>
    rw [distinctTokens.go]
    by_cases hskip : first = "" ∨ first ∈ seen
    · rw [if_pos hskip]
      exact ih seen
    · rw [if_neg hskip, List.nodup_cons, mem_distinctTokens_go]
      exact ⟨fun h => h.2.2 List.mem_cons_self, ih (first :: seen)⟩

theorem nodup_distinctTokens (tokens : List String) : (distinctTokens tokens).Nodup :=
  nodup_distinctTokens_go [] tokens

theorem distinctTokens_go_eq_self {seen tokens : List String} (hdistinct : tokens.Nodup)
    (hne : "" ∉ tokens) (hseen : ∀ token ∈ tokens, token ∉ seen) :
    distinctTokens.go seen tokens = tokens := by
  induction tokens generalizing seen with
  | nil => rfl
  | cons first rest ih =>
    rw [List.nodup_cons] at hdistinct
    rw [List.mem_cons, not_or] at hne
    rw [List.forall_mem_cons] at hseen
    rw [distinctTokens.go, if_neg (not_or.2 ⟨Ne.symm hne.1, hseen.1⟩)]
    rw [ih hdistinct.2 hne.2]
    intro token htoken hmem
    rcases List.mem_cons.1 hmem with rfl | hmem
    · exact hdistinct.1 htoken
    · exact hseen.2 token htoken hmem

/-- Distinct tokens none of which is empty are all kept. -/
theorem distinctTokens_eq_self {tokens : List String} (hdistinct : tokens.Nodup)
    (hne : "" ∉ tokens) : distinctTokens tokens = tokens :=
  distinctTokens_go_eq_self hdistinct hne fun _ _ => List.not_mem_nil

theorem distinctTokens_go_eq_eraseDups (seen tokens : List String) :
    distinctTokens.go seen tokens =
      (tokens.filter fun token => decide (token ≠ "" ∧ token ∉ seen)).eraseDups := by
  induction tokens generalizing seen with
  | nil => rfl
  | cons first rest ih =>
    rw [distinctTokens.go]
    by_cases hskip : first = "" ∨ first ∈ seen
    · have hout : ¬(first ≠ "" ∧ first ∉ seen) := by
        rw [not_and_or, not_not, not_not]
        exact hskip
      rw [if_pos hskip, ih, List.filter_cons_of_neg (by rwa [decide_eq_true_iff])]
    · have hin : first ≠ "" ∧ first ∉ seen := not_or.1 hskip
      have hrest (token : String) :
          decide (token ≠ "" ∧ token ∉ first :: seen) =
            (!token == first && decide (token ≠ "" ∧ token ∉ seen)) := by
        rw [Bool.eq_iff_iff]
        simp only [List.mem_cons, not_or, decide_eq_true_eq, Bool.and_eq_true, Bool.not_eq_true',
          beq_eq_false_iff_ne]
        tauto
      rw [if_neg hskip, ih, List.filter_cons_of_pos (by rwa [decide_eq_true_iff]), List.eraseDups_cons,
        List.filter_filter]
      simp only [hrest]

/-- Of the tokens that a test lets through the first ones are those that are first among all. -/
theorem eraseDups_filter (isGood : String → Bool) (tokens : List String) :
    (tokens.filter isGood).eraseDups = tokens.eraseDups.filter isGood := by
  match tokens with
  | [] => rfl
  | first :: rest =>
    rw [List.eraseDups_cons]
    cases hgood : isGood first with
    | true =>
      rw [List.filter_cons_of_pos hgood, List.filter_cons_of_pos hgood, List.eraseDups_cons,
        List.filter_comm, eraseDups_filter isGood]
    | false =>
      have hpass : rest.filter isGood = (rest.filter fun token => !token == first).filter isGood := by
        rw [List.filter_filter]
        refine List.filter_congr fun token _ => ?_
        by_cases htoken : token = first
        · rw [htoken, hgood, Bool.false_and]
        · rw [beq_eq_false_iff_ne.2 htoken, Bool.not_false, Bool.and_true]
      rw [List.filter_cons_of_neg (Bool.eq_false_iff.1 hgood),
        List.filter_cons_of_neg (Bool.eq_false_iff.1 hgood), hpass, eraseDups_filter isGood]
termination_by tokens.length
decreasing_by
  all_goals exact Nat.lt_succ_of_le (List.length_filter_le _ _)

/-- Distinct tokens are what is left of a list without repetitions and without the empty token. -/
theorem distinctTokens_eq_filter (tokens : List String) :
    distinctTokens tokens = tokens.eraseDups.filter (· ≠ "") := by
  rw [distinctTokens, distinctTokens_go_eq_eraseDups, ← eraseDups_filter]
  simp only [List.not_mem_nil, not_false_eq_true, and_true]

/-- Of a second list the tokens are kept that the first one does not have. -/
theorem distinctTokens_append (xs ys : List String) :
    distinctTokens (xs ++ ys) = distinctTokens xs ++ (distinctTokens ys).filter (· ∉ xs) := by
  have hnew (token : String) : (!xs.contains token) = decide (token ∉ xs) := by
    rw [Bool.eq_iff_iff, Bool.not_eq_true', decide_eq_true_iff, ← Bool.not_eq_true, List.contains_iff_mem]
  simp only [distinctTokens_eq_filter, List.eraseDups_append, List.filter_append, List.removeAll,
    eraseDups_filter, List.filter_comm, List.elem_eq_contains, hnew]

theorem distinctTokens_distinctTokens (tokens : List String) :
    distinctTokens (distinctTokens tokens) = distinctTokens tokens :=
  distinctTokens_eq_self (nodup_distinctTokens tokens) fun h => (mem_distinctTokens.1 h).2 rfl

/-- Two lists can be made distinct before they are put together. -/
theorem distinctTokens_append_distinctTokens (xs ys : List String) :
    distinctTokens (distinctTokens xs ++ distinctTokens ys) = distinctTokens (xs ++ ys) := by
  rw [distinctTokens_append, distinctTokens_append, distinctTokens_distinctTokens,
    distinctTokens_distinctTokens]
  refine congrArg (distinctTokens xs ++ ·) (List.filter_congr fun token htoken => ?_)
  have hne : token ≠ "" := (mem_distinctTokens.1 htoken).2
  have hmem : token ∈ distinctTokens xs ↔ token ∈ xs := mem_distinctTokens.trans (and_iff_left hne)
  exact decide_eq_decide.2 (not_congr hmem)

/-! ## Reading -/

/-- The words of a text as tokens. -/
def wordsOf (text : String) : List String := (Text.words text.toList).map String.ofList

/-- Whether a token holds no white space. -/
def isOneWord (token : String) : Bool := token.toList.all fun c => !Text.isBlankChar c

theorem isOneWord_iff {token : String} :
    isOneWord token = true ↔ ∀ c ∈ token.toList, Text.isBlankChar c = false := by
  simp [isOneWord]

theorem isOneWord_of_mem_wordsOf {text word : String} (h : word ∈ wordsOf text) :
    isOneWord word = true := by
  obtain ⟨cs, hcs, rfl⟩ := List.mem_map.1 h
  rw [isOneWord_iff, String.toList_ofList]
  exact Text.not_blank_of_mem_words hcs

theorem wordsOf_eq_singleton {token : String} (hne : token ≠ "") (h : isOneWord token = true) :
    wordsOf token = [token] := by
  have hchars : token.toList ≠ [] := fun heq => hne (String.toList_eq_nil_iff.1 heq)
  rw [wordsOf, Text.words_eq_singleton hchars (isOneWord_iff.1 h), List.map_singleton,
    String.ofList_toList]

/-- The words of tokens that are written with a space between them. -/
theorem wordsOf_intercalate (tokens : List String) :
    wordsOf (" ".intercalate tokens) = tokens.flatMap wordsOf := by
  have hspace : " ".toList = [' '] := rfl
  rw [wordsOf, String.toList_intercalate, hspace, Text.words_intercalate, List.flatMap_map,
    List.map_flatMap]
  rfl

/-- The class values that are read: that of `class`, then that of `classname`. -/
def classValues (attrs : Attributes) : List String :=
  [attrs.value? "class", attrs.value? "classname"].filterMap id

theorem classTokens_eq (attrs : Attributes) :
    attrs.classTokens = distinctTokens (attrs.classValues.flatMap wordsOf) := by
  rw [classTokens, List.map_flatMap]
  rfl

theorem mem_classTokens {attrs : Attributes} {token : String} :
    token ∈ attrs.classTokens ↔ (∃ value ∈ attrs.classValues, token ∈ wordsOf value) ∧ token ≠ "" := by
  rw [classTokens_eq, mem_distinctTokens, List.mem_flatMap]

/-! ## Writing -/

theorem value?_cons (a : Attribute) (rest : Attributes) (name : String) :
    Attributes.value? (a :: rest) name = if a.name = name then some a.value else rest.value? name := by
  by_cases h : a.name = name <;> simp [value?, h]

theorem value?_write (attrs : Attributes) (name value : String) :
    (attrs.write name value).value? name = some value := by
  induction attrs with
  | nil => simp [write, value?]
  | cons a rest ih =>
    rw [write]
    by_cases h : a.name = name
    · rw [if_pos h, value?_cons, if_pos h]
    · rw [if_neg h, value?_cons, if_neg h, ih]

theorem value?_erase (attrs : Attributes) {name : String} (h : lowerName name = name) :
    (attrs.erase name).value? name = none := by
  rw [value?, erase, List.find?_eq_none.2]
  · rfl
  · intro a ha
    have hne := (List.mem_filter.1 ha).2
    rw [h] at hne
    simpa using hne

theorem value?_erase_of_ne (attrs : Attributes) {name other : String} (h : lowerName name ≠ other) :
    (attrs.erase name).value? other = attrs.value? other := by
  rw [value?, erase, List.find?_filter]
  refine congrArg (Option.map Attribute.value) (congrArg (List.find? · attrs) (funext fun a => ?_))
  by_cases ha : a.name = other
  · simp [ha, Ne.symm h]
  · simp [ha]

/-- Tokens are written as one value, with a space between them, or not at all if there are none. -/
theorem classValues_setClassTokens (attrs : Attributes) (tokens : List String) :
    (attrs.setClassTokens tokens).classValues = if tokens = [] then [] else [" ".intercalate tokens] := by
  have hclass : lowerName "class" = "class" := by decide
  have hclassname : lowerName "classname" = "classname" := by decide
  rw [setClassTokens]
  by_cases hnil : tokens = []
  · rw [if_pos (List.isEmpty_iff.2 hnil), if_pos hnil, classValues,
      value?_erase_of_ne _ (by rw [hclassname]; decide), value?_erase _ hclass,
      value?_erase _ hclassname]
    rfl
  · rw [if_neg (fun h => hnil (List.isEmpty_iff.1 h)), if_neg hnil]
    split
    · rw [classValues, value?_erase _ hclass, value?_erase_of_ne _ (by rw [hclass]; decide),
        value?_write]
      rfl
    · rw [classValues, value?_erase _ hclassname, value?_erase_of_ne _ (by rw [hclassname]; decide),
        value?_write]
      rfl

/-- After tokens have been written the words of these tokens are read, each at its first place. -/
theorem classTokens_setClassTokens (attrs : Attributes) (tokens : List String) :
    (attrs.setClassTokens tokens).classTokens = distinctTokens (tokens.flatMap wordsOf) := by
  rw [classTokens_eq, classValues_setClassTokens]
  refine congrArg distinctTokens ?_
  split
  · next h => rw [h]
  · rw [List.flatMap_singleton, wordsOf_intercalate]

/-- Distinct tokens, none of them empty, are their own distinct words exactly if each is one word. -/
theorem distinctTokens_flatMap_wordsOf_eq_self_iff {tokens : List String} (hdistinct : tokens.Nodup)
    (hne : "" ∉ tokens) :
    distinctTokens (tokens.flatMap wordsOf) = tokens ↔ ∀ token ∈ tokens, isOneWord token = true := by
  constructor
  · intro h token htoken
    rw [← h, mem_distinctTokens, List.mem_flatMap] at htoken
    obtain ⟨⟨text, -, hword⟩, -⟩ := htoken
    exact isOneWord_of_mem_wordsOf hword
  · intro h
    have hwords : ∀ token ∈ tokens, wordsOf token = [token] := by
      intro token htoken
      refine wordsOf_eq_singleton ?_ (h token htoken)
      rintro rfl
      exact hne htoken
    rw [List.flatMap_congr hwords, List.flatMap_singleton', distinctTokens_eq_self hdistinct hne]

end MarkupCleaner.Attributes
