import Mathlib.Tactic.Common
import MarkupCleaner.Proofs.Markup.Reading

/-!
# What the tokenizer can yield

Which tokens come out of a text, whatever it looks like: start tags with the names and the attributes that
were read, comments that nothing in them ends, and within an element of raw text nothing but text up to
its end tag.
-/

namespace MarkupCleaner.Markup

/-! ## Searches -/

/-- What a search passes over, and where it ends: no earlier place is marked. -/
theorem search_spec {mark? : List Char → Option (List Char)} {cs body rest : List Char}
    (h : search? mark? cs = some (body, rest)) : ∃ tail, cs = body ++ tail ∧ mark? tail = some rest ∧
      ∀ ds, ds <:+ body → ds ≠ [] → mark? (ds ++ tail) = none := by
  induction cs generalizing body with
  | nil => cases h
  | cons c cs ih =>
    rw [search?] at h
    split at h
    · next found heq =>
      obtain ⟨rfl, rfl⟩ := Prod.mk.inj (Option.some.inj h)
      exact ⟨c :: cs, rfl, heq, fun ds hds hne => absurd (List.suffix_nil.1 hds) hne⟩
    · next hnone =>
      obtain ⟨⟨later, rest'⟩, hlater, heq⟩ := Option.map_eq_some_iff.1 h
      obtain ⟨rfl, rfl⟩ := Prod.mk.inj heq
      obtain ⟨tail, rfl, hmark, hbefore⟩ := ih hlater
      refine ⟨tail, rfl, hmark, fun ds hds hne => ?_⟩
      rcases List.suffix_cons_iff.1 hds with rfl | hds
      · exact hnone
      · exact hbefore ds hds hne

theorem bracket_notMem_of_search {cs body rest : List Char}
    (h : search? bracket? cs = some (body, rest)) : '>' ∉ body := by
  obtain ⟨tail, -, -, hbefore⟩ := search_spec h
  intro hmem
  obtain ⟨front, back, rfl⟩ := List.append_of_mem hmem
  have := hbefore ('>' :: back) (List.suffix_append front _) (List.cons_ne_nil _ _)
  cases this

theorem eq_of_bracket {cs rest : List Char} (h : bracket? cs = some rest) : cs = '>' :: rest := by
  unfold bracket? at h
  split at h
  · exact congrArg _ (Option.some.inj h)
  · cases h

/-- The end of a comment is two hyphens, blanks and a bracket. -/
theorem exists_of_commentEnd {cs rest : List Char} (h : commentEnd? cs = some rest) :
    ∃ blanks, blanks.all Text.isBlankChar = true ∧ cs = '-' :: '-' :: (blanks ++ '>' :: rest) := by
  unfold commentEnd? at h
  split at h
  · next cs =>
    have hcs := eq_of_bracket h
    refine ⟨cs.takeWhile Text.isBlankChar, List.all_takeWhile, ?_⟩
    rw [← hcs, Text.trimStart, List.takeWhile_append_dropWhile]
  · cases h

theorem endsNoComment_of_notMem {data : List Char} (h : '>' ∉ data) : EndsNoComment data := by
  intro cs hcs
  cases hend : commentEnd? cs with
  | none => rfl
  | some rest =>
    obtain ⟨blanks, -, rfl⟩ := exists_of_commentEnd hend
    refine absurd (hcs.mem ?_) h
    simp

/-- What comes before the first end of a comment does not end one. -/
theorem endsNoComment_of_search {cs data rest : List Char}
    (h : search? commentEnd? cs = some (data, rest)) : EndsNoComment data := by
  obtain ⟨tail, -, -, hbefore⟩ := search_spec h
  intro ds hds
  cases hend : commentEnd? ds with
  | none => rfl
  | some after =>
    obtain ⟨blanks, hblanks, rfl⟩ := exists_of_commentEnd hend
    have hnone := hbefore _ hds (List.cons_ne_nil _ _)
    have htrim : Text.trimStart (blanks ++ '>' :: (after ++ tail)) = '>' :: (after ++ tail) := by
      rw [Text.trimStart, List.dropWhile_append_of_pos (List.all_eq_true.1 hblanks)]
      rfl
    rw [List.cons_append, List.cons_append, List.append_assoc, List.cons_append, commentEnd?, htrim] at hnone
    cases hnone

/-! ## Steps -/

/-- A token that the tokenizer can yield in a mode, and the mode after it. -/
inductive Yields : Mode → Token → Mode → Prop
  | text (mode : Mode) (cs : List Char) : Yields mode (.text cs) mode
  | opening {c : Char} {cs rest : List Char} {tag : String} {attrs : List Attribute}
      (letter : isAsciiLetter c = true) (start : startTag (c :: cs) = .ok (.tag tag attrs false rest)) :
      Yields .markup (.opening tag attrs) (modeAfter tag false)
  | selfClosing {c : Char} {cs rest : List Char} {tag : String} {attrs : List Attribute}
      (letter : isAsciiLetter c = true) (start : startTag (c :: cs) = .ok (.tag tag attrs true rest)) :
      Yields .markup (.selfClosing tag attrs) .markup
  | closing (tag : String) : Yields .markup (.closing tag) .markup
  | rawTextEnd (tag : String) : Yields (.rawText tag) (.closing tag) .markup
  | comment {cs : List Char} (payload : EndsNoComment cs) : Yields .markup (.comment cs) .markup
  | characterData (cs : List Char) : Yields .markup (.characterData cs) .markup
  | ignored (kind : Ignored) : Yields .markup (.ignored kind) .markup

/-- Tokens that the tokenizer can yield one after the other. -/
inductive YieldsAll : Mode → List Token → Mode → Prop
  | nil (mode : Mode) : YieldsAll mode [] mode
  | cons {mode mode' mode'' : Mode} {t : Token} {ts : List Token} (first : Yields mode t mode')
      (later : YieldsAll mode' ts mode'') : YieldsAll mode (t :: ts) mode''

namespace YieldsAll

theorem single {mode mode' : Mode} {t : Token} (h : Yields mode t mode') : YieldsAll mode [t] mode' :=
  .cons h (.nil mode')

theorem append {mode mode' mode'' : Mode} {ts us : List Token} (h : YieldsAll mode ts mode')
    (h' : YieldsAll mode' us mode'') : YieldsAll mode (ts ++ us) mode'' := by
  induction h with
  | nil mode => exact h'
  | cons first _ ih => exact .cons first (ih h')

end YieldsAll

/-- What a construct yields the tokenizer can yield. -/
abbrev Scanned.Follows (mode : Mode) (s : Scanned) : Prop := YieldsAll mode s.tokens s.mode

theorem follows_endTag {mode : Mode} {cs : List Char} {s : Scanned} (h : endTag mode cs = some s) :
    s.Follows mode := by
  unfold endTag at h
  cases hsearch : search? bracket? cs with
  | none => simp [hsearch] at h
  | some found =>
    have hbody : EndsNoComment found.1 := endsNoComment_of_notMem (bracket_notMem_of_search hsearch)
    simp only [hsearch, Option.bind_eq_bind, Option.bind_some, pure] at h
    split at h
    · obtain rfl := Option.some.inj h
      exact .single (.closing _)
    · obtain rfl := Option.some.inj h
      split
      · next htag =>
        rw [htag]
        exact .single (.rawTextEnd _)
      · exact .single (.text _ _)
    · obtain rfl := Option.some.inj h
      exact .single (.text _ _)
    · split at h
      · obtain rfl := Option.some.inj h
        exact .nil _
      · split at h <;> obtain rfl := Option.some.inj h
        · exact .single (.closing _)
        · exact .single (.comment hbody)

/-- A search that yields one token. -/
theorem follows_search {mark? : List Char → Option (List Char)} (token : List Char → Token)
    {cs : List Char} {s : Scanned}
    (htoken : ∀ body rest, search? mark? cs = some (body, rest) → Yields .markup (token body) .markup)
    (h : (search? mark? cs).map (fun f => Scanned.plain .markup (token f.1) f.2) = some s) :
    s.Follows .markup := by
  obtain ⟨found, hfound, rfl⟩ := Option.map_eq_some_iff.1 h
  exact .single (htoken found.1 found.2 hfound)

theorem yields_sectionToken (data : List Char) : Yields .markup (sectionToken data) .markup := by
  unfold sectionToken
  split
  · exact .characterData _
  · exact .ignored _

theorem follows_markedSection {cs : List Char} {s : Scanned}
    (h : markedSection .markup cs = .ok (some s)) : s.Follows .markup := by
  unfold markedSection at h
  split at h
  · simp at h
  · split at h
    · dsimp only at h
      split at h
      · simp at h
      · split at h
        · exact follows_search sectionToken (fun _ _ _ => yields_sectionToken _) (Except.ok.inj h)
        · split at h
          · exact follows_search sectionToken (fun _ _ _ => yields_sectionToken _) (Except.ok.inj h)
          · simp at h
    · simp at h

theorem follows_declaration {cs : List Char} {s : Scanned} (h : declaration .markup cs = .ok (some s)) :
    s.Follows .markup := by
  unfold declaration at h
  split at h
  · exact follows_markedSection h
  · split at h
    · exact follows_search (fun _ => .ignored .doctype) (fun _ _ _ => .ignored .doctype) (Except.ok.inj h)
    · exact follows_search .comment (fun _ _ hsearch =>
        .comment (endsNoComment_of_notMem (bracket_notMem_of_search hsearch))) (Except.ok.inj h)

theorem follows_construct {cs : List Char} {s : Scanned} (h : construct .markup cs = .ok (some s)) :
    s.Follows .markup := by
  unfold construct at h
  split at h
  · simp at h
  · exact follows_endTag (Except.ok.inj h)
  · exact follows_search .comment (fun _ _ hsearch => .comment (endsNoComment_of_search hsearch))
      (Except.ok.inj h)
  · exact follows_search (fun _ => .ignored .processingInstruction)
      (fun _ _ _ => .ignored .processingInstruction) (Except.ok.inj h)
  · exact follows_declaration h
  · split at h
    · next hletter =>
      split at h
      · simp at h
      · simp at h
      · obtain rfl := Option.some.inj (Except.ok.inj h)
        exact .single (.text _ _)
      · next hstart =>
        obtain rfl := Option.some.inj (Except.ok.inj h)
        exact .single (.selfClosing hletter hstart)
      · next hstart =>
        obtain rfl := Option.some.inj (Except.ok.inj h)
        exact .single (.opening hletter hstart)
    · obtain rfl := Option.some.inj (Except.ok.inj h)
      exact .single (.text _ _)

/-- What a step yields the tokenizer can yield, whether it goes on or stops. -/
def Step.Follows (mode : Mode) : Step → Prop
  | .next scanned => scanned.Follows mode
  | .stop ts _ => YieldsAll mode ts mode

theorem follows_bracketed {atEnd : Bool} {mode : Mode} {cs : List Char} {s : Step}
    (hconstruct : ∀ scanned, construct mode cs = .ok (some scanned) → scanned.Follows mode)
    (h : bracketed atEnd mode cs = .ok s) : s.Follows mode := by
  unfold bracketed at h
  cases hc : construct mode cs with
  | error e => simp [hc, bind, Except.bind] at h
  | ok found =>
    cases found with
    | some scanned =>
      simp only [hc, bind, Except.bind, pure, Except.pure, Except.ok.injEq] at h
      subst h
      exact hconstruct scanned hc
    | none =>
      simp only [hc, bind, Except.bind, pure, Except.pure] at h
      split at h <;> obtain rfl := Except.ok.inj h
      · exact .single (.text _ _)
      · exact .nil _

theorem follows_reference {atEnd : Bool} {cs : List Char} {s : Step} (h : reference atEnd cs = .ok s) :
    s.Follows .markup := by
  unfold reference at h
  split at h
  · split at h
    · obtain rfl := Except.ok.inj h
      exact .single (.text _ _)
    · simp at h
    · split at h <;> obtain rfl := Except.ok.inj h
      · exact .single (.text _ _)
      · exact .nil _
  · split at h
    · obtain rfl := Except.ok.inj h
      exact .single (.text _ _)
    · split at h
      · obtain rfl := Except.ok.inj h
        exact .nil _
      · split at h <;> obtain rfl := Except.ok.inj h
        · exact .nil _
        · exact .single (.text _ _)

/-- The end tag of an element of raw text starts with a bracket and a slash. -/
theorem exists_of_rawTextEnd {tag : String} {cs rest : List Char} (h : rawTextEnd? tag cs = some rest) :
    ∃ body, cs = '<' :: '/' :: body := by
  unfold rawTextEnd? at h
  split at h
  · exact ⟨_, rfl⟩
  · cases h

theorem follows_step {atEnd : Bool} {mode : Mode} {cs : List Char} {s : Step}
    (h : step atEnd mode cs = .ok s) : s.Follows mode := by
  unfold step at h
  split at h
  · split at h
    · obtain rfl := Except.ok.inj h
      exact .nil _
    · next hsearch =>
      obtain ⟨tail, rfl, hend, -⟩ := search_spec hsearch
      obtain ⟨body, rfl⟩ := exists_of_rawTextEnd hend
      refine follows_bracketed (fun scanned hc => ?_) h
      rw [List.drop_succ_cons, List.drop_zero, construct] at hc
      exact follows_endTag (Except.ok.inj hc)
    · obtain rfl := Except.ok.inj h
      exact .single (.text _ _)
  · split at h
    · obtain rfl := Except.ok.inj h
      exact .nil _
    · split at h
      · exact follows_bracketed (fun scanned => follows_construct) h
      · split at h
        · exact follows_reference h
        · obtain rfl := Except.ok.inj h
          exact .single (.text _ _)

/-! ## Runs -/

/-- What a run yields the tokenizer can yield, up to the mode at its end. -/
theorem yieldsAll_run {atEnd : Bool} {mode : Mode} {cs : List Char} {r : Run}
    (h : run atEnd mode cs = .ok r) : YieldsAll mode r.tokens r.mode := by
  rw [run] at h
  split at h
  · obtain rfl := Except.ok.inj h
    exact .nil mode
  · split at h
    · cases h
    · next stopped rest hstep =>
      obtain rfl := Except.ok.inj h
      exact follows_step hstep
    · next scanned hstep =>
      cases hlater : run atEnd scanned.mode scanned.rest with
      | error e =>
        rw [hlater] at h
        cases h
      | ok later =>
        rw [hlater] at h
        obtain rfl := Except.ok.inj h
        exact (follows_step hstep : scanned.Follows mode).append (yieldsAll_run hlater)
termination_by cs.length
decreasing_by exact length_of_step ‹_›

/-- The tokens of a text the tokenizer can yield, starting in markup. -/
theorem yieldsAll_tokens {cs : List Char} {ts : List Token} (h : tokens cs = .ok ts) :
    ∃ mode, YieldsAll .markup ts mode := by
  unfold tokens at h
  cases hfirst : run false .markup cs with
  | error e => simp [hfirst, bind, Except.bind] at h
  | ok first =>
    cases hsecond : run true first.mode first.rest with
    | error e => simp [hfirst, hsecond, bind, Except.bind] at h
    | ok second =>
      simp only [hfirst, hsecond, bind, Except.bind, pure, Except.pure, Except.ok.injEq] at h
      subst h
      refine ⟨second.mode, ((yieldsAll_run hfirst).append (yieldsAll_run hsecond)).append ?_⟩
      split
      · exact .single (.text _ _)
      · exact .nil _

end MarkupCleaner.Markup
