import MarkupCleaner.Markup.Token

/-!
# The token sequence of a text

Every step of the tokenizer that goes on leaves an end of the text it started with, and less than the
whole, so running it to the end is a recursion on the length of the text.
-/

namespace MarkupCleaner.Markup

/-! ## Marks -/

theorem suffix_of_bracket {cs rest : List Char} (h : bracket? cs = some rest) : rest <:+ cs := by
  unfold bracket? at h
  split at h
  · cases h
    exact List.suffix_cons _ _
  · cases h

theorem suffix_of_commentEnd {cs rest : List Char} (h : commentEnd? cs = some rest) : rest <:+ cs := by
  unfold commentEnd? at h
  split at h
  · next tail => exact ((suffix_of_bracket h).trans (trimStart_suffix tail)).trans ⟨['-', '-'], rfl⟩
  · cases h

theorem suffix_of_conditionalEnd {cs rest : List Char} (h : conditionalEnd? cs = some rest) :
    rest <:+ cs := by
  unfold conditionalEnd? at h
  split at h
  · next tail => exact ((suffix_of_bracket h).trans (trimStart_suffix tail)).trans (List.suffix_cons _ _)
  · cases h

theorem suffix_of_sectionEnd {cs rest : List Char} (h : sectionEnd? cs = some rest) : rest <:+ cs := by
  unfold sectionEnd? at h
  split at h
  · next tail =>
    exact ((suffix_of_conditionalEnd h).trans (trimStart_suffix tail)).trans (List.suffix_cons _ _)
  · cases h

/-- A search leaves an end of what it was given if its mark does. -/
theorem suffix_of_search {mark? : List Char → Option (List Char)}
    (hmark : ∀ {cs rest}, mark? cs = some rest → rest <:+ cs) {cs body rest : List Char}
    (h : search? mark? cs = some (body, rest)) : rest <:+ cs := by
  induction cs generalizing body with
  | nil => cases h
  | cons c cs ih =>
    rw [search?] at h
    split at h
    · next heq =>
      cases h
      exact hmark heq
    · obtain ⟨later, hlater, heq⟩ := Option.map_eq_some_iff.1 h
      cases heq
      exact (ih hlater).trans (List.suffix_cons c cs)

/-- A search that yields one token leaves an end of what it was given. -/
theorem suffix_of_search_map {mark? : List Char → Option (List Char)} {mode : Mode}
    (token : List Char → Token) (hmark : ∀ {cs rest}, mark? cs = some rest → rest <:+ cs) {cs : List Char}
    {s : Scanned} (h : (search? mark? cs).map (fun f => Scanned.plain mode (token f.1) f.2) = some s) :
    s.rest <:+ cs := by
  obtain ⟨found, hfound, rfl⟩ := Option.map_eq_some_iff.1 h
  exact suffix_of_search hmark hfound

/-! ## Start tags -/

theorem writtenAttributes_suffix (prev : Char) (cs : List Char) : (writtenAttributes prev cs).2 <:+ cs := by
  fun_induction writtenAttributes prev cs with
  | case1 => exact List.suffix_refl _
  | case2 prev c tail hstarts name hv gap more ih =>
    have hgap := skipGap_suffix (name.getLastD prev) (tail.dropWhile isAttributeNameChar)
    exact ((ih.trans hgap).trans (List.dropWhile_suffix _)).trans (List.suffix_cons c tail)
  | case3 prev c tail hstarts name value last afterValue hv gap more ih =>
    have hgap := (skipGap_suffix last afterValue).trans (suffix_of_writtenValue hv)
    exact ((ih.trans hgap).trans (List.dropWhile_suffix _)).trans (List.suffix_cons c tail)
  | case4 => exact List.suffix_refl _

/-- The attributes of a start tag as they are written, and what follows them. -/
def tagParts (cs : List Char) : List WrittenAttribute × List Char :=
  let name := cs.takeWhile fun c => !endsTagName c
  let gap := skipGap (name.getLastD '<') (cs.dropWhile fun c => !endsTagName c)
  writtenAttributes gap.1 gap.2

theorem tagParts_suffix (cs : List Char) : (tagParts cs).2 <:+ cs :=
  ((writtenAttributes_suffix _ _).trans (skipGap_suffix _ _)).trans (List.dropWhile_suffix _)

/-- What follows a start tag, or the characters that are none. -/
def StartTag.rest? : StartTag → Option (List Char)
  | .tag _ _ _ rest => some rest
  | .junk rest => some rest
  | .unfinished => none

theorem suffix_of_startTag {cs rest : List Char} {t : StartTag} (h : startTag cs = .ok t)
    (hrest : t.rest? = some rest) : rest <:+ cs := by
  unfold startTag at h
  dsimp only at h
  split at h
  · cases h
    cases hrest
  · next c after heq =>
    have hends : c :: after <:+ cs := by
      rw [← show (tagParts cs).2 = c :: after from heq]
      exact tagParts_suffix cs
    have hafter : after <:+ cs := (List.suffix_cons c after).trans hends
    split at h
    · cases h
      cases hrest
    · simp only [bind, Except.bind] at h
      split at h
      · cases h
      · split at h
        · cases h
          cases hrest
          exact hafter
        · cases h
          cases hrest
          exact (List.suffix_cons _ _).trans hafter
        · cases h
          cases hrest
          exact tagParts_suffix cs

/-! ## Constructs -/

theorem suffix_of_endTag {mode : Mode} {cs : List Char} {s : Scanned} (h : endTag mode cs = some s) :
    s.rest <:+ cs := by
  unfold endTag at h
  cases hsearch : search? bracket? cs with
  | none => simp [hsearch] at h
  | some found =>
    have hrest : found.2 <:+ cs := suffix_of_search suffix_of_bracket hsearch
    simp only [hsearch, Option.bind_eq_bind, Option.bind_some, pure] at h
    split at h
    · cases h
      exact hrest
    · split at h <;> cases h <;> exact hrest
    · cases h
      exact hrest
    · split at h
      · cases h
        exact hrest
      · split at h <;> cases h <;> exact hrest

theorem suffix_of_markedSection {mode : Mode} {cs : List Char} {s : Scanned}
    (h : markedSection mode cs = .ok (some s)) : s.rest <:+ cs := by
  unfold markedSection at h
  split at h
  · cases h
  · split at h
    · dsimp only at h
      split at h
      · cases h
      · split at h
        · exact suffix_of_search_map sectionToken suffix_of_sectionEnd (Except.ok.inj h)
        · split at h
          · exact suffix_of_search_map sectionToken suffix_of_conditionalEnd (Except.ok.inj h)
          · cases h
    · cases h

theorem suffix_of_declaration {mode : Mode} {cs : List Char} {s : Scanned}
    (h : declaration mode cs = .ok (some s)) : s.rest <:+ cs := by
  unfold declaration at h
  split at h
  · exact (suffix_of_markedSection h).trans (List.suffix_cons _ _)
  · split at h
    · have hrest := suffix_of_search_map (fun _ => .ignored .doctype) suffix_of_bracket (Except.ok.inj h)
      exact hrest.trans (List.drop_suffix 7 cs)
    · exact suffix_of_search_map .comment suffix_of_bracket (Except.ok.inj h)

theorem suffix_of_construct {mode : Mode} {cs : List Char} {s : Scanned}
    (h : construct mode cs = .ok (some s)) : s.rest <:+ cs := by
  unfold construct at h
  split at h
  · cases h
  · exact (suffix_of_endTag (Except.ok.inj h)).trans (List.suffix_cons _ _)
  · next body =>
    have hrest := suffix_of_search_map .comment suffix_of_commentEnd (Except.ok.inj h)
    exact hrest.trans ⟨['!', '-', '-'], rfl⟩
  · have hrest := suffix_of_search_map (fun _ => .ignored .processingInstruction) suffix_of_bracket
      (Except.ok.inj h)
    exact hrest.trans (List.suffix_cons _ _)
  · exact (suffix_of_declaration h).trans (List.suffix_cons _ _)
  · split at h
    · split at h
      · cases h
      · cases h
      · next hstart =>
        cases h
        exact suffix_of_startTag hstart rfl
      · next hstart =>
        cases h
        exact suffix_of_startTag hstart rfl
      · next hstart =>
        cases h
        exact suffix_of_startTag hstart rfl
    · cases h
      exact List.suffix_refl _

/-! ## Steps -/

theorem unfinishedText_suffix (cs : List Char) : (unfinishedText cs).2 <:+ cs := by
  unfold unfinishedText
  split
  · next hsearch => exact suffix_of_search suffix_of_bracket hsearch
  · split
    · exact List.dropWhile_suffix _
    · exact List.suffix_refl _

theorem suffix_of_bracketed {atEnd : Bool} {mode : Mode} {cs : List Char} {s : Scanned}
    (h : bracketed atEnd mode cs = .ok (.next s)) : s.rest <:+ cs := by
  unfold bracketed at h
  cases hconstruct : construct mode cs with
  | error e => simp [hconstruct, bind, Except.bind] at h
  | ok found =>
    simp only [hconstruct, bind, Except.bind, pure, Except.pure] at h
    cases found with
    | some scanned =>
      cases h
      exact suffix_of_construct hconstruct
    | none =>
      dsimp only at h
      split at h
      · cases h
        exact unfinishedText_suffix cs
      · cases h

theorem numberBase_suffix (cs : List Char) : (numberBase cs).2 <:+ cs := by
  unfold numberBase
  split
  · exact List.suffix_cons _ _
  · exact List.suffix_cons _ _
  · exact List.suffix_refl _

theorem suffix_of_numericReference {cs rest : List Char} {n : Except Number.DigitLimit Nat}
    (h : numericReference? cs = some (n, rest)) : rest <:+ cs := by
  have hafter : (numberBase cs).2.dropWhile (isNumberDigit (numberBase cs).1) <:+ cs :=
    (List.dropWhile_suffix _).trans (numberBase_suffix cs)
  unfold numericReference? at h
  dsimp only at h
  split at h
  · cases h
  · next c tail heq =>
    rw [heq] at hafter
    split at h
    · cases h
    · cases h
      split
      · exact (List.suffix_cons c tail).trans hafter
      · exact hafter

theorem suffix_of_namedReference {cs name rest : List Char} (h : namedReference? cs = some (name, rest)) :
    rest <:+ cs := by
  unfold namedReference? at h
  split at h
  · cases h
  · next first tail =>
    have hafter : tail.dropWhile isNameChar <:+ first :: tail :=
      (List.dropWhile_suffix _).trans (List.suffix_cons first tail)
    split at h
    · dsimp only at h
      split at h
      · next heq =>
        cases h
        rw [heq] at hafter
        exact (List.suffix_cons _ _).trans hafter
      · next heq =>
        cases h
        rw [heq] at hafter
        exact hafter
      · next heq =>
        split at h
        · cases h
        · cases h
          -- the name goes up to the end of the text, so that an end of it is one of the text
          have hwhole : tail.takeWhile isNameChar = tail := by
            have := List.takeWhile_append_dropWhile (p := isNameChar) (l := tail)
            rwa [heq, List.append_nil] at this
          rw [hwhole]
          exact (List.drop_suffix _ tail).trans (List.suffix_cons first tail)
    · cases h

theorem suffix_of_reference {atEnd : Bool} {cs : List Char} {s : Scanned}
    (h : reference atEnd cs = .ok (.next s)) : s.rest <:+ cs := by
  unfold reference at h
  split at h
  · split at h
    · next hnumber =>
      cases h
      exact (suffix_of_numericReference hnumber).trans (List.suffix_cons _ _)
    · cases h
    · split at h <;> cases h
  · split at h
    · next hname =>
      cases h
      exact suffix_of_namedReference hname
    · split at h
      · cases h
      · split at h
        · cases h
        · cases h
          exact List.suffix_refl _

/-- A step that goes on leaves less text. -/
theorem length_of_step {atEnd : Bool} {mode : Mode} {cs : List Char} {s : Scanned}
    (h : step atEnd mode cs = .ok (.next s)) : s.rest.length < cs.length := by
  unfold step at h
  split at h
  · split at h
    · cases h
    · next hsearch =>
      cases cs with
      | nil => cases hsearch
      | cons c tail => exact Nat.lt_succ_of_le (suffix_of_bracketed h).length_le
    · next data _ hne hsearch =>
      cases h
      cases cs with
      | nil => cases hsearch
      | cons c tail =>
        have hpos : 0 < data.length := List.length_pos_iff.2 fun he => hne (by rw [he])
        simp only [Scanned.plain, List.length_drop, List.length_cons]
        omega
  · split at h
    · cases h
    · next c tail =>
      split at h
      · exact Nat.lt_succ_of_le (suffix_of_bracketed h).length_le
      · split at h
        · exact Nat.lt_succ_of_le (suffix_of_reference h).length_le
        · cases h
          exact Nat.lt_succ_of_le (List.dropWhile_suffix isPlainChar).length_le

/-- The outcome of one run over a text: the tokens, the mode at the end and the text that is left. -/
structure Run where
  tokens : List Token
  mode : Mode
  rest : List Char

/-- Takes steps until the text is used up or a step stops. -/
def run (atEnd : Bool) (mode : Mode) (cs : List Char) : Except ParseError Run :=
  if cs.isEmpty then .ok ⟨[], mode, []⟩
  else
    match _h : step atEnd mode cs with
    | .error e => .error e
    | .ok (.stop tokens rest) => .ok ⟨tokens, mode, rest⟩
    | .ok (.next scanned) => do
      let later ← run atEnd scanned.mode scanned.rest
      return { later with tokens := scanned.tokens ++ later.tokens }
termination_by cs.length
decreasing_by exact length_of_step ‹_›

/-- The tokens of a text. The second run starts where the first one stopped; what it leaves is text,
    except inside raw text, whose missing end loses it. -/
def tokens (cs : List Char) : Except ParseError (List Token) := do
  let first ← run false .markup cs
  let second ← run true first.mode first.rest
  let left := if second.mode = .markup ∧ second.rest ≠ [] then [Token.text second.rest] else []
  return first.tokens ++ second.tokens ++ left

end MarkupCleaner.Markup
