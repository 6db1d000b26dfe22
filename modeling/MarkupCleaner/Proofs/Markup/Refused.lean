import MarkupCleaner.Markup.Parse
import MarkupCleaner.Proofs.Data.Runs
import MarkupCleaner.Proofs.Markup.Overlong
import MarkupCleaner.Proofs.Markup.Reading

/-!
# What the parser refuses

Which texts have no tree, and for what reason. A text is refused at a place that the tokenizer comes to
where a marked section has no name or is of an unknown kind, or where a decimal reference has too many
digits, be it in text or in a value of a start tag that ends. Whatever else is malformed is mended.
-/

namespace MarkupCleaner.Markup

/-! ## Places -/

/-- A run of the characters of a kind goes no further than up to here. -/
def EndsRun (isPart : Char → Bool) (rest : List Char) : Prop := ∀ c ∈ rest.head?, isPart c = false

theorem takeWhile_append_of_endsRun {isPart : Char → Bool} {run rest : List Char}
    (hrun : run.all isPart) (hrest : EndsRun isPart rest) : (run ++ rest).takeWhile isPart = run :=
  takeWhile_run_append (List.all_eq_true.1 hrun) hrest

theorem dropWhile_append_of_endsRun {isPart : Char → Bool} {run rest : List Char}
    (hrun : run.all isPart) (hrest : EndsRun isPart rest) : (run ++ rest).dropWhile isPart = rest :=
  dropWhile_run_append (List.all_eq_true.1 hrun) hrest

theorem endsRun_dropWhile (isPart : Char → Bool) (cs : List Char) :
    EndsRun isPart (cs.dropWhile isPart) := by
  intro c hc
  have hhead := List.head?_dropWhile_not isPart cs
  rwa [hc] at hhead

/-- The places where the parser refuses a text, with the reasons. -/
inductive Refused : List Char → ParseError → Prop where
  /-- A marked section starts with something else than a letter. -/
  | unnamed {c : Char} {cs : List Char} (hc : isAsciiLetter c = false) :
      Refused ('<' :: '!' :: '[' :: c :: cs) (.sectionNameExpected (('<' :: '!' :: '[' :: c :: cs).take 20))
  /-- The name of a marked section is that of no kind, and something follows it. -/
  | unknown {c : Char} {name blanks rest : List Char} (hc : isAsciiLetter c)
      (hname : name.all isSectionNameChar) (hend : EndsRun isSectionNameChar (blanks ++ rest))
      (hblanks : blanks.all Text.isBlankChar) (hrest : EndsRun Text.isBlankChar rest) (hne : rest ≠ [])
      (hkind : Unicode.lower (c :: name) ∉ markedSections ++ conditionalSections) :
      Refused ('<' :: '!' :: '[' :: c :: (name ++ (blanks ++ rest))) (.unknownSection (c :: name ++ blanks))
  /-- A decimal reference in text has too many digits, and something else than a digit in base sixteen
      follows them. -/
  | number {digits : List Char} {c : Char} {cs : List Char} (hdigits : digits.all isAsciiDigit)
      (hlong : Number.maxDigits < digits.length) (hc : Number.isHexDigit c = false) :
      Refused ('&' :: '#' :: (digits ++ c :: cs)) (.tooManyDigits ⟨digits.length⟩)
  /-- A start tag has such a reference in a value. -/
  | value {c : Char} {cs : List Char} {limit : Number.DigitLimit} (hc : isAsciiLetter c)
      (hends : endsStartTag (tagParts (c :: cs)).2)
      (hlimit : (tagParts (c :: cs)).1.findSome? WrittenAttribute.overlong? = some limit) :
      Refused ('<' :: c :: cs) (.tooManyDigits limit)

/-- Something is left after a run that is shorter than the whole. -/
theorem dropWhile_ne_nil_of_length {isPart : Char → Bool} {cs : List Char}
    (h : ¬cs.length ≤ (cs.takeWhile isPart).length) : cs.dropWhile isPart ≠ [] := by
  intro hnil
  have hcs := List.takeWhile_append_dropWhile (p := isPart) (l := cs)
  rw [hnil, List.append_nil] at hcs
  rw [hcs] at h
  exact h (Nat.le_refl _)

theorem refused_of_markedSection {mode : Mode} {cs : List Char} {e : ParseError}
    (h : markedSection mode cs = .error e) : Refused ('<' :: '!' :: '[' :: cs) e := by
  unfold markedSection at h
  split at h
  · cases h
  · next c tail =>
    split at h
    · next hc =>
      dsimp only at h
      split at h
      · cases h
      · next hlength =>
        split at h
        · cases h
        · next hmarked =>
          split at h
          · cases h
          · next hconditional =>
            cases h
            have htail : tail.takeWhile isSectionNameChar ++
                ((tail.dropWhile isSectionNameChar).takeWhile Text.isBlankChar ++
                  (tail.dropWhile isSectionNameChar).dropWhile Text.isBlankChar) = tail := by
              rw [List.takeWhile_append_dropWhile, List.takeWhile_append_dropWhile]
            have hrefused := Refused.unknown hc List.all_takeWhile
              (by rw [List.takeWhile_append_dropWhile]; exact endsRun_dropWhile _ tail) List.all_takeWhile
              (endsRun_dropWhile Text.isBlankChar (tail.dropWhile isSectionNameChar))
              (dropWhile_ne_nil_of_length hlength)
              (List.not_mem_append hmarked hconditional)
            rwa [htail] at hrefused
    · next hc =>
      cases h
      exact .unnamed (Bool.eq_false_iff.2 hc)

theorem refused_of_construct {mode : Mode} {cs : List Char} {e : ParseError}
    (h : construct mode cs = .error e) : Refused ('<' :: cs) e := by
  unfold construct at h
  split at h
  · cases h
  · cases h
  · cases h
  · cases h
  · unfold declaration at h
    split at h
    · exact refused_of_markedSection h
    · split at h <;> cases h
  · split at h
    · next hc =>
      split at h
      · next hstart =>
        cases h
        obtain ⟨hends, hlimit⟩ := (startTag_eq_error_iff _ _).1 hstart
        exact .value hc hends hlimit
      · cases h
      · cases h
      · cases h
      · cases h
    · cases h

theorem isHexDigit_of_isAsciiDigit {c : Char} (h : isAsciiDigit c) : Number.isHexDigit c := by
  have hrange : ('0' ≤ c && c ≤ '9') = true := h
  simp only [Number.isHexDigit, Number.hexValue?, hrange, if_true, Option.isSome_some]

theorem numberBase_of_isAsciiDigit {c : Char} (hc : isAsciiDigit c) (cs : List Char) :
    numberBase (c :: cs) = (false, c :: cs) := by
  unfold numberBase
  split
  · next heq =>
    rw [(List.cons.inj heq).1] at hc
    exact absurd hc (by decide)
  · next heq =>
    rw [(List.cons.inj heq).1] at hc
    exact absurd hc (by decide)
  · rfl

theorem eq_of_numberBase_decimal {cs start : List Char} (h : numberBase cs = (false, start)) :
    start = cs := by
  unfold numberBase at h
  split at h <;> cases h
  rfl

/-- A numeric reference in text is refused if it is decimal and has too many digits. -/
theorem exists_of_numericReference_error {cs rest : List Char} {limit : Number.DigitLimit}
    (h : numericReference? cs = some (.error limit, rest)) :
    ∃ digits c after, cs = digits ++ c :: after ∧ digits.all isAsciiDigit ∧
      Number.maxDigits < digits.length ∧ Number.isHexDigit c = false ∧ ⟨digits.length⟩ = limit := by
  unfold numericReference? at h
  cases hbase : numberBase cs with
  | mk hex start =>
    simp only [hbase] at h
    split at h
    · cases h
    · next c after hafter =>
      split at h
      · cases h
      · next hc =>
        have hnumber := congrArg Prod.fst (Option.some.inj h)
        rw [Bool.or_eq_true, not_or] at hc
        cases hex with
        | true => cases hnumber
        | false =>
          obtain rfl := eq_of_numberBase_decimal hbase
          obtain ⟨hlong, hlimit⟩ := Number.whole_eq_error_iff.1 hnumber
          refine ⟨start.takeWhile isAsciiDigit, c, after, ?_, List.all_takeWhile, hlong,
            Bool.eq_false_iff.2 hc.2, hlimit⟩
          rw [← hafter]
          exact List.takeWhile_append_dropWhile.symm

theorem numericReference_of_overlong {digits : List Char} {c : Char} (hdigits : digits.all isAsciiDigit)
    (hlong : Number.maxDigits < digits.length) (hc : Number.isHexDigit c = false) (cs : List Char) :
    ∃ rest, numericReference? (digits ++ c :: cs) = some (.error ⟨digits.length⟩, rest) := by
  have hend : EndsRun isAsciiDigit (c :: cs) := by
    rintro _ ⟨⟩
    exact Bool.eq_false_iff.2 fun hdigit => by simp [isHexDigit_of_isAsciiDigit hdigit] at hc
  have hrun : (digits ++ c :: cs).takeWhile (isNumberDigit false) = digits :=
    takeWhile_append_of_endsRun hdigits hend
  have hafter : (digits ++ c :: cs).dropWhile (isNumberDigit false) = c :: cs :=
    dropWhile_append_of_endsRun hdigits hend
  have hbase : numberBase (digits ++ c :: cs) = (false, digits ++ c :: cs) := by
    cases digits with
    | nil => simp at hlong
    | cons d digits => exact numberBase_of_isAsciiDigit (List.all_eq_true.1 hdigits d List.mem_cons_self) _
  have hne : digits.isEmpty = false := by
    cases digits with
    | nil => simp at hlong
    | cons d digits => rfl
  unfold numericReference?
  simp only [hbase, hrun, hafter, hne, hc, Bool.or_self, Bool.false_eq_true, if_false, referenceNumber,
    Number.whole_eq_error_iff.2 ⟨hlong, rfl⟩]
  exact ⟨_, rfl⟩

theorem refused_of_reference {atEnd : Bool} {cs : List Char} {e : ParseError}
    (h : reference atEnd cs = .error e) : Refused ('&' :: cs) e := by
  unfold reference at h
  split at h
  · next body =>
    split at h
    · cases h
    · next limit rest hnumber =>
      cases h
      obtain ⟨digits, c, after, rfl, hdigits, hlong, hc, rfl⟩ := exists_of_numericReference_error hnumber
      exact .number hdigits hlong hc
    · split at h <;> cases h
  · split at h
    · cases h
    · split at h
      · cases h
      · split at h <;> cases h

theorem markedSection_of_unknown {mode : Mode} {c : Char} {name blanks rest : List Char}
    (hc : isAsciiLetter c) (hname : name.all isSectionNameChar)
    (hend : EndsRun isSectionNameChar (blanks ++ rest)) (hblanks : blanks.all Text.isBlankChar)
    (hrest : EndsRun Text.isBlankChar rest) (hne : rest ≠ [])
    (hkind : Unicode.lower (c :: name) ∉ markedSections ++ conditionalSections) :
    markedSection mode (c :: (name ++ (blanks ++ rest))) = .error (.unknownSection (c :: name ++ blanks)) := by
  have hlength : ¬(blanks ++ rest).length ≤ blanks.length := by
    have := List.length_pos_iff.2 hne
    rw [List.length_append]
    omega
  rw [List.mem_append, not_or] at hkind
  simp only [markedSection, hc, if_true, takeWhile_append_of_endsRun hname hend,
    dropWhile_append_of_endsRun hname hend, takeWhile_append_of_endsRun hblanks hrest, hlength, if_false,
    hkind.1, hkind.2]

theorem construct_of_startTag_error {mode : Mode} {c : Char} {cs : List Char}
    {limit : Number.DigitLimit} (hc : isAsciiLetter c) (h : startTag (c :: cs) = .error limit) :
    construct mode (c :: cs) = .error (.tooManyDigits limit) := by
  unfold construct
  split
  · next heq => cases heq
  · next heq =>
    cases heq
    exact absurd hc (by decide)
  · next heq =>
    cases heq
    exact absurd hc (by decide)
  · next heq =>
    cases heq
    exact absurd hc (by decide)
  · next heq =>
    cases heq
    exact absurd hc (by decide)
  · next heq =>
    cases heq
    simp only [hc, if_true, h]

theorem bracketed_eq_error_iff {atEnd : Bool} {mode : Mode} {cs : List Char} {e : ParseError} :
    bracketed atEnd mode cs = .error e ↔ construct mode cs = .error e := by
  refine bind_eq_error_iff_left fun found => ?_
  cases found with
  | none => dsimp only; split <;> nofun
  | some scanned => nofun

theorem step_eq_error_iff {atEnd : Bool} {mode : Mode} {cs : List Char} {e : ParseError} :
    step atEnd mode cs = .error e ↔ mode = .markup ∧ Refused cs e := by
  constructor
  · intro h
    unfold step at h
    split at h
    · split at h
      · cases h
      · next hsearch =>
        obtain ⟨tail, rfl, hend, -⟩ := search_spec hsearch
        obtain ⟨body, rfl⟩ := exists_of_rawTextEnd hend
        cases bracketed_eq_error_iff.1 h
      · cases h
    · refine ⟨rfl, ?_⟩
      split at h
      · cases h
      · split at h
        · next hc =>
          rw [hc]
          exact refused_of_construct (bracketed_eq_error_iff.1 h)
        · split at h
          · next hc =>
            rw [hc]
            exact refused_of_reference h
          · cases h
  · rintro ⟨rfl, h⟩
    cases h with
    | unnamed hc =>
      refine bracketed_eq_error_iff.2 ?_
      simp [construct, declaration, markedSection, hc]
    | unknown hc hname hend hblanks hrest hne hkind =>
      exact bracketed_eq_error_iff.2 (markedSection_of_unknown hc hname hend hblanks hrest hne hkind)
    | @number digits c tail hdigits hlong hc =>
      obtain ⟨rest, hnumber⟩ := numericReference_of_overlong hdigits hlong hc tail
      show reference atEnd ('#' :: (digits ++ c :: tail)) = _
      simp only [reference, hnumber]
    | @value c tail limit hc hends hlimit =>
      have hstart : startTag (c :: tail) = .error limit := (startTag_eq_error_iff _ _).2 ⟨hends, hlimit⟩
      exact bracketed_eq_error_iff.2 (construct_of_startTag_error hc hstart)

/-- At a place that is refused a marked section starts, or a decimal reference with too many digits stands
in the text. -/
theorem marked_or_overlong_of_refused {place : List Char} {e : ParseError} (h : Refused place e) :
    ['<', '!', '['] <:+: place ∨ ∃ digits : List Char, '&' :: '#' :: digits <:+: place ∧
      digits.all isAsciiDigit ∧ Number.maxDigits < digits.length := by
  cases h with
  | unnamed hc => exact Or.inl (List.prefix_append ['<', '!', '['] _).isInfix
  | unknown => exact Or.inl (List.prefix_append ['<', '!', '['] _).isInfix
  | @number digits c cs hdigits hlong hc =>
    exact Or.inr ⟨digits, (List.prefix_append ('&' :: '#' :: digits) (c :: cs)).isInfix, hdigits, hlong⟩
  | value hc hends hlimit =>
    obtain ⟨w, hw, hover⟩ := List.exists_of_findSome?_eq_some hlimit
    cases hvalue : w.value with
    | none => simp [WrittenAttribute.overlong?, hvalue] at hover
    | some value =>
      rw [WrittenAttribute.overlong?, hvalue] at hover
      obtain ⟨digits, hwithin, hdigits, hlong⟩ := exists_of_overlong hover
      refine Or.inr ⟨digits, ?_, hdigits, hlong⟩
      have hplace := (standsIn_of_mem_tagParts hw hvalue).mono (List.suffix_cons '<' _).isInfix
      rcases hplace with hplace | ⟨tail, rfl, hplace⟩
      · exact hwithin.trans hplace
      · rcases List.infix_cons_iff.1 hwithin with hfront | hwithin
        · cases (List.cons_prefix_cons.1 hfront).1
        · exact hwithin.trans hplace

/-! ## Runs -/

theorem run_of_error {atEnd : Bool} {mode : Mode} {cs : List Char} {e : ParseError}
    (h : step atEnd mode cs = .error e) : run atEnd mode cs = .error e := by
  rw [run_eq, h, except_error_bind]

theorem run_of_stop {atEnd : Bool} {mode : Mode} {cs rest : List Char} {ts : List Token}
    (h : step atEnd mode cs = .ok (.stop ts rest)) : run atEnd mode cs = .ok ⟨ts, mode, rest⟩ := by
  rw [run_eq, h, except_ok_bind, resume]

theorem run_of_next {atEnd : Bool} {mode : Mode} {cs : List Char} {scanned : Scanned}
    (h : step atEnd mode cs = .ok (.next scanned)) :
    run atEnd mode cs = Run.after scanned.tokens <$> run atEnd scanned.mode scanned.rest := by
  rw [run_eq, h, except_ok_bind, resume]

/-- Where the tokenizer comes to in a text, whether it knows the end, and what it is reading there: the
start, the rest after each step that goes on, and again the place where the first run stopped. -/
inductive Reaches (text : List Char) : Bool → Mode → List Char → Prop where
  | start : Reaches text false .markup text
  | next {atEnd : Bool} {mode : Mode} {cs : List Char} {scanned : Scanned}
      (h : Reaches text atEnd mode cs) (hstep : step atEnd mode cs = .ok (.next scanned)) :
      Reaches text atEnd scanned.mode scanned.rest
  | again {mode : Mode} {cs rest : List Char} {ts : List Token} (h : Reaches text false mode cs)
      (hstep : step false mode cs = .ok (.stop ts rest)) : Reaches text true mode rest

theorem Reaches.suffix {text cs : List Char} {atEnd : Bool} {mode : Mode}
    (h : Reaches text atEnd mode cs) : cs <:+ text := by
  induction h with
  | start => exact List.suffix_refl text
  | next _ hstep ih => exact (suffix_of_step hstep).trans ih
  | again _ hstep ih => exact (suffix_of_step hstep).trans ih

/-- The first run over a text, or the second one from where the first one stopped. -/
def runOver (text : List Char) : Bool → Except ParseError Run
  | false => run false .markup text
  | true => do
    let first ← run false .markup text
    run true first.mode first.rest

/-- What is left at a place that the tokenizer comes to decides how the run over the text ends. -/
theorem Reaches.runOver_eq {text cs : List Char} {atEnd : Bool} {mode : Mode}
    (h : Reaches text atEnd mode cs) : ∃ ts, runOver text atEnd = Run.after ts <$> run atEnd mode cs := by
  induction h with
  | start => exact ⟨[], (id_map (run false .markup text)).symm⟩
  | @next atEnd mode cs scanned _ hstep ih =>
    obtain ⟨ts, ih⟩ := ih
    refine ⟨ts ++ scanned.tokens, ?_⟩
    rw [ih, run_of_next hstep]
    cases run atEnd scanned.mode scanned.rest with
    | error e => rfl
    | ok r => exact congrArg Except.ok (Run.after_after ts scanned.tokens r)
  | @again mode cs rest last _ hstep ih =>
    obtain ⟨ts, ih⟩ := ih
    refine ⟨[], ?_⟩
    have hfirst : run false .markup text = .ok (Run.after ts ⟨last, mode, rest⟩) := by
      rw [run_of_stop hstep] at ih
      exact ih
    rw [runOver, hfirst]
    exact (id_map (run true mode rest)).symm

/-- A run that fails comes to a place where a step fails. -/
theorem exists_of_run_error {text cs : List Char} {atEnd : Bool} {mode : Mode} {e : ParseError}
    (h : Reaches text atEnd mode cs) (hrun : run atEnd mode cs = .error e) :
    ∃ mode' cs', Reaches text atEnd mode' cs' ∧ step atEnd mode' cs' = .error e := by
  cases hstep : step atEnd mode cs with
  | error e' =>
    rw [run_of_error hstep] at hrun
    cases hrun
    exact ⟨mode, cs, h, hstep⟩
  | ok s =>
    cases s with
    | stop ts rest =>
      rw [run_of_stop hstep] at hrun
      cases hrun
    | next scanned =>
      rw [run_of_next hstep, except_map_eq_error] at hrun
      exact exists_of_run_error (h.next hstep) hrun
termination_by cs.length
decreasing_by exact length_of_step ‹_›

/-- A run comes to the place where it stops. -/
theorem reaches_of_run {text cs : List Char} {mode : Mode} {r : Run} (h : Reaches text false mode cs)
    (hrun : run false mode cs = .ok r) : Reaches text true r.mode r.rest := by
  cases hstep : step false mode cs with
  | error e =>
    rw [run_of_error hstep] at hrun
    cases hrun
  | ok s =>
    cases s with
    | stop ts rest =>
      rw [run_of_stop hstep] at hrun
      cases hrun
      exact h.again hstep
    | next scanned =>
      rw [run_of_next hstep] at hrun
      obtain ⟨later, hlater, rfl⟩ := except_map_eq_ok.1 hrun
      exact (reaches_of_run (h.next hstep) hlater : Reaches text true later.mode later.rest)
termination_by cs.length
decreasing_by exact length_of_step ‹_›

theorem tokens_eq_error {cs : List Char} {e : ParseError} :
    tokens cs = .error e ↔ runOver cs true = .error e := by
  change tokens cs = .error e ↔
    (run false .markup cs >>= fun first => run true first.mode first.rest) = .error e
  unfold tokens
  cases run false .markup cs with
  | error e' => simp only [except_error_bind, Except.error.injEq]
  | ok first =>
    rw [except_ok_bind, except_ok_bind]
    exact bind_eq_error_iff_left fun second => nofun

/-- The tokenizer fails for the reason for which the text is refused at a place that it comes to. -/
theorem tokens_eq_error_iff (cs : List Char) (e : ParseError) :
    tokens cs = .error e ↔ ∃ atEnd place, Reaches cs atEnd .markup place ∧ Refused place e := by
  rw [tokens_eq_error]
  constructor
  · intro h
    obtain ⟨atEnd, mode, place, hreaches, hstep⟩ :
        ∃ atEnd mode place, Reaches cs atEnd mode place ∧ step atEnd mode place = .error e := by
      cases hfirst : run false .markup cs with
      | error e' =>
        rw [runOver, hfirst] at h
        cases h
        exact ⟨false, exists_of_run_error .start hfirst⟩
      | ok first =>
        rw [runOver, hfirst] at h
        exact ⟨true, exists_of_run_error (reaches_of_run .start hfirst) h⟩
    obtain ⟨rfl, hrefused⟩ := step_eq_error_iff.1 hstep
    exact ⟨atEnd, place, hreaches, hrefused⟩
  · rintro ⟨atEnd, place, hreaches, hrefused⟩
    have hstep : step atEnd .markup place = .error e := step_eq_error_iff.2 ⟨rfl, hrefused⟩
    obtain ⟨ts, hover⟩ := hreaches.runOver_eq
    rw [run_of_error hstep] at hover
    cases atEnd with
    | false =>
      have hfirst : run false .markup cs = .error e := hover
      rw [runOver, hfirst]
      rfl
    | true => exact hover

end MarkupCleaner.Markup

namespace MarkupCleaner

open Markup

theorem parseFragment_eq_error {text : String} {e : ParseError} :
    parseFragment text = .error e ↔ tokens text.toList = .error e :=
  except_map_eq_error.trans except_map_eq_error

/-- A text is refused exactly if the tokenizer comes to a place in it that is refused, for the reason for
which that place is. -/
theorem parseFragment_eq_error_iff (text : String) (e : ParseError) :
    parseFragment text = .error e ↔ ∃ atEnd place, place <:+ text.toList ∧
      Reaches text.toList atEnd .markup place ∧ Refused place e := by
  rw [parseFragment_eq_error, tokens_eq_error_iff]
  constructor
  · rintro ⟨atEnd, place, hreaches, hrefused⟩
    exact ⟨atEnd, place, hreaches.suffix, hreaches, hrefused⟩
  · rintro ⟨atEnd, place, -, hreaches, hrefused⟩
    exact ⟨atEnd, place, hreaches, hrefused⟩

/-- Malformed markup that has no tree. -/
theorem parseFragment_not_total : ¬∀ text, ∃ t, parseFragment text = .ok t := by
  have hsection : parseFragment "<![x]>" = .error (.unknownSection ['x']) := by decide +kernel
  intro h
  obtain ⟨t, ht⟩ := h "<![x]>"
  rw [hsection] at ht
  cases ht

/-- A text has a tree if it has no marked section and no decimal reference with too many digits. -/
theorem exists_parseFragment {text : String} (hsection : ¬['<', '!', '['] <:+: text.toList)
    (hnumber : ∀ digits : List Char, digits.all isAsciiDigit → Number.maxDigits < digits.length →
      ¬(['&', '#'] ++ digits <:+: text.toList)) : ∃ t, parseFragment text = .ok t := by
  cases htree : parseFragment text with
  | ok t => exact ⟨t, rfl⟩
  | error e =>
    obtain ⟨atEnd, place, hreaches, hrefused⟩ := (tokens_eq_error_iff _ e).1 (parseFragment_eq_error.1 htree)
    have hplace : place <:+: text.toList := hreaches.suffix.isInfix
    rcases marked_or_overlong_of_refused hrefused with hmarked | ⟨digits, hwithin, hdigits, hlong⟩
    · exact absurd (hmarked.trans hplace) hsection
    · exact absurd (hwithin.trans hplace) (hnumber digits hdigits hlong)

end MarkupCleaner
