import MarkupCleaner.ClassRules.Engine
import MarkupCleaner.Proofs.Data.Except
import MarkupCleaner.Proofs.Tree.ClassTokens

/-!
# Rules that write words

A rename writes characters of its target and of the token that it is applied to, and nothing else. So
tokens without white space stay so under rules that write none.
-/

namespace MarkupCleaner.ClassRules

open Attributes

/-! ## Templates -/

section

variable {good : Char → Prop} {p : CompiledPattern} {m : Pattern.Match}

theorem forall_mem_groupText (htext : ∀ c ∈ m.text, good c) (number : Nat) :
    ∀ c ∈ groupText m number, good c := by
  rw [groupText, Pattern.Match.group?]
  split
  · exact fun c hc => nomatch hc
  · cases m.groups[number - 1]?.join with
    | none => exact fun c hc => nomatch hc
    | some span => exact fun c hc => htext c (List.mem_of_mem_drop (List.mem_of_mem_take hc))

theorem forall_mem_numberedText (htext : ∀ c ∈ m.text, good c) (hdollar : good '$')
    {digits : List Char} (hdigits : ∀ c ∈ digits, good c) : ∀ c ∈ numberedText p m digits, good c := by
  have hplain : ∀ c ∈ '$' :: digits, good c := List.forall_mem_cons.2 ⟨hdollar, hdigits⟩
  unfold numberedText
  dsimp only
  split
  · exact forall_mem_groupText htext _
  · split
    · split
      · refine List.forall_mem_append.2 ⟨forall_mem_groupText htext _, fun c hc => hdigits c ?_⟩
        exact List.mem_cons_of_mem _ hc
      · exact hplain
    · exact hplain

theorem forall_mem_namedText (htext : ∀ c ∈ m.text, good c) (hmarks : ∀ c ∈ ['$', '<', '>'], good c)
    {name : List Char} (hname : ∀ c ∈ name, good c) : ∀ c ∈ namedText p m name, good c := by
  unfold namedText
  split
  · exact forall_mem_groupText htext _
  · intro c hc
    simp only [List.cons_append, List.mem_cons, List.mem_append, List.not_mem_nil, or_false] at hc
    rcases hc with rfl | rfl | hc | rfl
    · exact hmarks '$' (by decide)
    · exact hmarks '<' (by decide)
    · exact hname c hc
    · exact hmarks '>' (by decide)

theorem forall_mem_referenceText {cs text : List Char} {length : Nat} (htext : ∀ c ∈ m.text, good c)
    (hmarks : ∀ c ∈ ['$', '<', '>'], good c) (hcs : ∀ c ∈ cs, good c)
    (h : referenceText? p m cs = some (text, length)) : ∀ c ∈ text, good c := by
  have hdollar : good '$' := hmarks '$' (by decide)
  unfold referenceText? at h
  split at h
  · cases h
  · cases h
    exact List.forall_mem_singleton.2 hdollar
  · cases h
    exact fun c hc => htext c (List.mem_of_mem_drop (List.mem_of_mem_take hc))
  · next rest =>
    dsimp only at h
    split at h
    · cases h
      refine forall_mem_namedText htext hmarks fun c hc => hcs c ?_
      exact List.mem_cons_of_mem _ (List.takeWhile_subset _ hc)
    · cases h
  · dsimp only at h
    split at h
    · cases h
    · cases h
      refine forall_mem_numberedText htext hdollar fun c hc => hcs c ?_
      exact List.mem_of_mem_take (List.takeWhile_subset _ hc)

/-- What holds of the characters of the text and of the template, and of the marks of references, holds
    of the expansion. -/
theorem forall_mem_expandFrom (htext : ∀ c ∈ m.text, good c) (hmarks : ∀ c ∈ ['$', '<', '>'], good c)
    {cs : List Char} (hcs : ∀ c ∈ cs, good c) (skipped : Nat) :
    ∀ c ∈ expandFrom p m skipped cs, good c := by
  induction cs generalizing skipped with
  | nil =>
    rw [expandFrom]
    exact fun c hc => nomatch hc
  | cons c cs ih =>
    obtain ⟨hc, hrest⟩ := List.forall_mem_cons.1 hcs
    cases skipped with
    | succ skipped => exact ih hrest skipped
    | zero =>
      rw [expandFrom]
      split
      · split
        · next text length href =>
          exact List.forall_mem_append.2
            ⟨forall_mem_referenceText htext hmarks hrest href, ih hrest length⟩
        · exact List.forall_mem_cons.2 ⟨hmarks '$' (by decide), ih hrest 0⟩
      · exact List.forall_mem_cons.2 ⟨hc, ih hrest 0⟩

end

/-! ## Tokens -/

theorem text_of_search {p : CompiledPattern} {text : List Char} {m : Pattern.Match}
    (h : p.search? text = .ok (some m)) : m.text = text := by
  unfold CompiledPattern.search? at h
  dsimp only at h
  split at h
  · cases h
  · obtain ⟨groups, -, h⟩ := except_bind_eq_ok.1 h
    cases h
    rfl

/-- The text that a rename writes. -/
def Rename.target : Rename → String
  | literal _ target => target
  | pattern _ target => target

theorem Rename.isOneWord_apply {r : Rename} {token result : String} (hr : isOneWord r.target = true)
    (htoken : isOneWord token = true) (h : r.apply token = .ok result) : isOneWord result = true := by
  cases r with
  | literal source target =>
    obtain rfl := Except.ok.inj h
    split
    · exact hr
    · exact htoken
  | pattern p target =>
    obtain ⟨found, hfound, h⟩ := except_bind_eq_ok.1 h
    cases found with
    | none =>
      obtain rfl := Except.ok.inj h
      exact htoken
    | some m =>
      obtain rfl := Except.ok.inj h
      have htext : ∀ c ∈ m.text, Text.isBlankChar c = false := by
        rw [text_of_search hfound]
        exact isOneWord_iff.1 htoken
      rw [isOneWord_iff, String.toList_ofList]
      refine List.forall_mem_append.2 ⟨List.forall_mem_append.2 ⟨fun c hc => ?_, ?_⟩, fun c hc => ?_⟩
      · exact htext c (List.mem_of_mem_take hc)
      · exact forall_mem_expandFrom htext (by simp [Text.isBlankChar]) (isOneWord_iff.1 hr) 0
      · exact htext c (List.mem_of_mem_drop hc)

theorem Rename.isOneWord_foldlM {renames : List Rename} {token result : String}
    (hrenames : ∀ r ∈ renames, isOneWord r.target = true) (htoken : isOneWord token = true)
    (h : renames.foldlM (fun current r => r.apply current) token = .ok result) :
    isOneWord result = true := by
  induction renames generalizing token with
  | nil =>
    obtain rfl := Except.ok.inj h
    exact htoken
  | cons r renames ih =>
    obtain ⟨hr, hrest⟩ := List.forall_mem_cons.1 hrenames
    rw [List.foldlM_cons] at h
    obtain ⟨current, hcurrent, h⟩ := except_bind_eq_ok.1 h
    exact ih hrest (Rename.isOneWord_apply hr htoken hcurrent) h

namespace Engine

/-- Rules that write no white space: neither a target nor the lead has any. -/
def WritesWords (e : Engine) : Prop :=
  (∀ r ∈ e.renames, isOneWord r.target = true) ∧ isOneWord (e.lead.getD "") = true

theorem isOneWord_rename {e : Engine} {token result : String} (he : e.WritesWords)
    (htoken : isOneWord token = true) (h : e.rename token = .ok result) : isOneWord result = true :=
  Rename.isOneWord_foldlM he.1 htoken h

theorem keep_subset {e : Engine} {tokens kept : List String} (h : e.keep tokens = .ok kept) :
    kept ⊆ tokens := by
  induction tokens generalizing kept with
  | nil =>
    obtain rfl := Except.ok.inj h
    exact List.Subset.refl _
  | cons token tokens ih =>
    obtain ⟨isRemoved, -, h⟩ := except_bind_eq_ok.1 h
    obtain ⟨rest, hrest, h⟩ := except_bind_eq_ok.1 h
    obtain rfl := Except.ok.inj h
    split
    · exact List.Subset.trans (ih hrest) (List.subset_cons_self token tokens)
    · exact List.cons_subset_cons token (ih hrest)

/-- Tokens without white space have none after rules that write none. -/
theorem isOneWord_of_mem_apply {e : Engine} {tokens result : List String} (he : e.WritesWords)
    (htokens : ∀ token ∈ tokens, isOneWord token = true) (h : e.apply tokens = .ok result) :
    ∀ token ∈ result, isOneWord token = true := by
  obtain ⟨kept, hkept, h⟩ := except_bind_eq_ok.1 h
  obtain ⟨renamed, hrenamed, h⟩ := except_bind_eq_ok.1 h
  obtain rfl := Except.ok.inj h
  intro token htoken
  obtain ⟨changed, hchanged, rfl⟩ := List.mem_map.1 (mem_distinctTokens.1 htoken).1
  obtain ⟨old, hold, hrename⟩ := (mem_of_mapM_eq_ok hrenamed).1 hchanged
  have hnew := isOneWord_rename he (htokens old (keep_subset hkept hold)) hrename
  rw [isOneWord_iff, withLead, String.toList_append]
  exact List.forall_mem_append.2 ⟨isOneWord_iff.1 he.2, isOneWord_iff.1 hnew⟩

end Engine
end MarkupCleaner.ClassRules
