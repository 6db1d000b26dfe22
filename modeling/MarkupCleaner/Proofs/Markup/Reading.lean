import Mathlib.Tactic.Common
import MarkupCleaner.Proofs.Data.Runs
import MarkupCleaner.Proofs.Markup.Escapes
import MarkupCleaner.Proofs.Unicode.Lowercase

/-!
# Reading written markup

What the tokenizer makes of the pieces that a written tree consists of: escaped text, start tags with
quoted values, end tags and comments. `Reads cs ts rest` says that the characters `cs` in front of
`rest` come out as the tokens `ts` and that nothing of `rest` is touched.
-/

namespace MarkupCleaner.Markup

open Output

/-! ## Characters as numbers -/

theorem isAsciiLetter_iff {c : Char} : isAsciiLetter c = true ↔
    (97 ≤ c.toNat ∧ c.toNat ≤ 122) ∨ (65 ≤ c.toNat ∧ c.toNat ≤ 90) := by
  simp only [isAsciiLetter, Bool.or_eq_true, Bool.and_eq_true, decide_eq_true_eq]
  exact Iff.rfl

theorem isAsciiDigit_iff {c : Char} : isAsciiDigit c = true ↔ 48 ≤ c.toNat ∧ c.toNat ≤ 57 := by
  simp only [isAsciiDigit, Bool.and_eq_true, decide_eq_true_eq]
  exact Iff.rfl

/-- Between the space and the next-line character there is no blank. -/
theorem isBlankChar_eq_false {c : Char} (h : 32 < c.toNat ∧ c.toNat < 133) :
    Text.isBlankChar c = false := by
  rw [← Bool.not_eq_true]
  simp only [Text.isBlankChar, Bool.or_eq_true, Bool.and_eq_true, decide_eq_true_eq, beq_iff_eq]
  omega

theorem isBlankChar_of_isAsciiLetter {c : Char} (h : isAsciiLetter c = true) :
    Text.isBlankChar c = false := by
  rw [isAsciiLetter_iff] at h
  exact isBlankChar_eq_false (by omega)

/-! ## Runs -/

/-- A run with tokens put in front. -/
def Run.after (ts : List Token) (r : Run) : Run := { r with tokens := ts ++ r.tokens }

theorem Run.after_after (ts us : List Token) (r : Run) :
    (r.after us).after ts = r.after (ts ++ us) := by
  simp [Run.after]

theorem step_nil (atEnd : Bool) (mode : Mode) : step atEnd mode [] = .ok (.stop [] []) := by
  cases mode <;> rfl

/-- How a run goes on after a step. -/
def resume (atEnd : Bool) (mode : Mode) : Step → Except ParseError Run
  | .stop ts rest => .ok ⟨ts, mode, rest⟩
  | .next scanned => Run.after scanned.tokens <$> run atEnd scanned.mode scanned.rest

/-- A run is a step and what comes after it. -/
theorem run_eq (atEnd : Bool) (mode : Mode) (cs : List Char) :
    run atEnd mode cs = step atEnd mode cs >>= resume atEnd mode := by
  cases cs with
  | nil =>
    rw [step_nil, run]
    rfl
  | cons c cs =>
    rw [run, if_neg (by simp)]
    split
    · next hstep =>
      rw [hstep]
      rfl
    · next hstep =>
      rw [hstep]
      rfl
    · next scanned hstep =>
      rw [hstep]
      change _ = Run.after scanned.tokens <$> run atEnd scanned.mode scanned.rest
      cases run atEnd scanned.mode scanned.rest <;> rfl

/-- The tokenizer reads `cs` in front of `rest` as the tokens `ts`, going from one mode to another. -/
def ReadsFrom (mode : Mode) (cs : List Char) (ts : List Token) (mode' : Mode) (rest : List Char) : Prop :=
  run false mode (cs ++ rest) = Run.after ts <$> run false mode' rest

/-- The tokenizer reads `cs` in front of `rest` as the tokens `ts`, in markup before and after. -/
abbrev Reads (cs : List Char) (ts : List Token) (rest : List Char) : Prop :=
  ReadsFrom .markup cs ts .markup rest

theorem readsFrom_nil (mode : Mode) (rest : List Char) : ReadsFrom mode [] [] mode rest := by
  unfold ReadsFrom
  cases h : run false mode rest with
  | error e => rw [List.nil_append, h]; rfl
  | ok r => rw [List.nil_append, h]; rfl

theorem reads_nil (rest : List Char) : Reads [] [] rest := readsFrom_nil .markup rest

theorem ReadsFrom.append {mode mode' mode'' : Mode} {cs ds rest : List Char} {ts us : List Token}
    (h₁ : ReadsFrom mode cs ts mode' (ds ++ rest)) (h₂ : ReadsFrom mode' ds us mode'' rest) :
    ReadsFrom mode (cs ++ ds) (ts ++ us) mode'' rest := by
  unfold ReadsFrom at h₁ h₂ ⊢
  rw [List.append_assoc, h₁, h₂]
  cases run false mode'' rest with
  | error e => rfl
  | ok r => exact congrArg Except.ok (Run.after_after ts us r)

/-- Characters whose first step leaves exactly what follows them are read as the tokens of that
    step. -/
theorem readsFrom_of_step {mode mode' : Mode} {cs rest : List Char} {ts : List Token}
    (h : step false mode (cs ++ rest) = .ok (.next ⟨ts, mode', rest⟩)) :
    ReadsFrom mode cs ts mode' rest := by
  rw [ReadsFrom, run_eq, h]
  rfl

/-- Text that is read to its end yields its tokens. -/
theorem tokens_of_reads {cs : List Char} {ts : List Token} (h : Reads cs ts []) :
    tokens cs = .ok ts := by
  have hnil : ∀ atEnd, run atEnd .markup [] = .ok ⟨[], .markup, []⟩ := fun atEnd => by
    rw [run]
    rfl
  unfold Reads ReadsFrom at h
  rw [List.append_nil, hnil false] at h
  unfold tokens
  rw [h]
  change (do
    let second ← run true .markup []
    let left := if second.mode = .markup ∧ second.rest ≠ [] then [Token.text second.rest] else []
    return (ts ++ []) ++ second.tokens ++ left) = Except.ok ts
  rw [hnil true]
  simp [bind, Except.bind, pure, Except.pure]

/-! ## Text -/

/-- What may follow a text: nothing, or markup. -/
def StartsMarkup (rest : List Char) : Prop := ∀ c ∈ rest.head?, c = '<'

/-- The plain characters at the start of escaped text are those that need no escape. -/
theorem takeWhile_escapedText {rest : List Char} (hrest : StartsMarkup rest) (cs : List Char) :
    (escapedText cs ++ rest).takeWhile isPlainChar = cs.takeWhile isUnescaped ∧
      (escapedText cs ++ rest).dropWhile isPlainChar
        = escapedText (cs.dropWhile isUnescaped) ++ rest := by
  induction cs with
  | nil =>
    cases rest with
    | nil => exact ⟨rfl, rfl⟩
    | cons c rest =>
      obtain rfl : c = '<' := hrest c rfl
      exact ⟨rfl, rfl⟩
  | cons c cs ih =>
    by_cases hc : isUnescaped c
    · have hplain : isPlainChar c = true := by
        simp only [isUnescaped, isPlainChar, Bool.not_eq_true', Bool.or_eq_false_iff] at hc ⊢
        exact hc.1
      have hesc : escapedText (c :: cs) = c :: escapedText cs := by
        rw [escapedText_cons, escapeTextChar_of_unescaped hc]
        rfl
      rw [hesc, List.cons_append, List.takeWhile_cons_of_pos hplain, List.takeWhile_cons_of_pos hc,
        List.dropWhile_cons_of_pos hplain, List.dropWhile_cons_of_pos hc, ih.1, ih.2]
      exact ⟨rfl, rfl⟩
    · -- an escape starts with an ampersand, which is not plain
      have hesc : ∃ tail, escapedText (c :: cs) = '&' :: tail := by
        rcases eq_of_not_isUnescaped hc with rfl | rfl | rfl <;> exact ⟨_, rfl⟩
      rw [List.takeWhile_cons_of_neg hc, List.dropWhile_cons_of_neg hc]
      obtain ⟨tail, htail⟩ := hesc
      rw [htail]
      exact ⟨rfl, rfl⟩

/-- A named reference to a character is read as that character. -/
theorem reads_reference (name : List Char) {c : Char} (rest : List Char)
    (hname : ∃ first tail, name = first :: tail ∧ isAsciiLetter first ∧ tail.all isNameChar)
    (htext : referenceText name = [c]) : Reads ('&' :: name ++ [';']) [.text [c]] rest := by
  obtain ⟨first, tail, rfl, hfirst, htail⟩ := hname
  have hstop : isNameChar ';' = false := by decide
  have hall := List.all_eq_true.1 htail
  have href : namedReference? (first :: (tail ++ ';' :: rest)) = some (first :: tail, rest) := by
    rw [namedReference?, if_pos hfirst]
    simp only [takeWhile_run_cons hall hstop, dropWhile_run_cons hall hstop]
  have hhash : first ≠ '#' := by
    rintro rfl
    exact absurd hfirst (by decide)
  refine readsFrom_of_step ?_
  have hcs : '&' :: (first :: tail) ++ [';'] ++ rest = '&' :: first :: (tail ++ ';' :: rest) := by
    simp
  rw [hcs, step, if_neg (by decide), if_pos rfl, reference]
  · rw [href]
    simp only [htext]
    rfl
  · intro body hbody
    exact hhash (List.cons.inj hbody).1

/-- An escaped character in front of anything is read as the character. -/
theorem reads_escape {c : Char} (h : ¬isUnescaped c = true) (rest : List Char) :
    Reads (escapeTextChar c) [.text [c]] rest := by
  rcases eq_of_not_isUnescaped h with rfl | rfl | rfl
  · exact reads_reference "amp".toList rest ⟨'a', "mp".toList, rfl, rfl, rfl⟩ rfl
  · exact reads_reference "lt".toList rest ⟨'l', "t".toList, rfl, rfl, rfl⟩ rfl
  · exact reads_reference "gt".toList rest ⟨'g', "t".toList, rfl, rfl, rfl⟩ rfl

/-- Characters that need no escape are read as one token, up to the first one that does. -/
theorem reads_unescaped {c : Char} (hc : isUnescaped c = true) (cs : List Char) {rest : List Char}
    (hrest : StartsMarkup rest) :
    Reads (c :: cs.takeWhile isUnescaped) [.text (c :: cs.takeWhile isUnescaped)]
      (escapedText (cs.dropWhile isUnescaped) ++ rest) := by
  have hspan := takeWhile_escapedText hrest cs
  have hcs : c :: cs.takeWhile isUnescaped ++ (escapedText (cs.dropWhile isUnescaped) ++ rest)
      = c :: (escapedText cs ++ rest) := by
    rw [List.cons_append, ← List.append_assoc, ← escapedText_split]
  simp only [isUnescaped, Bool.not_eq_true', Bool.or_eq_false_iff, decide_eq_false_iff_not] at hc
  refine readsFrom_of_step ?_
  rw [hcs]
  simp only [step, if_neg hc.1.2, if_neg hc.1.1, hspan.1, hspan.2]
  rfl

/-- Escaped text in front of markup is read as text tokens that together hold the text. -/
theorem reads_escapedText {rest : List Char} (hrest : StartsMarkup rest) :
    ∀ cs : List Char, ∃ pieces : List (List Char), (cs ≠ [] → pieces ≠ []) ∧ pieces.flatten = cs ∧
      Reads (escapedText cs) (pieces.map .text) rest
  | [] => ⟨[], fun h => absurd rfl h, rfl, reads_nil rest⟩
  | c :: cs => by
    by_cases hc : isUnescaped c = true
    · have hshorter := (List.dropWhile_suffix isUnescaped (l := cs)).length_le
      obtain ⟨pieces, -, hflat, hreads⟩ := reads_escapedText hrest (cs.dropWhile isUnescaped)
      refine ⟨(c :: cs.takeWhile isUnescaped) :: pieces, fun _ => by simp, ?_, ?_⟩
      · rw [List.flatten_cons, hflat, List.cons_append, List.takeWhile_append_dropWhile]
      · have hsplit : escapedText (c :: cs)
            = (c :: cs.takeWhile isUnescaped) ++ escapedText (cs.dropWhile isUnescaped) := by
          rw [escapedText_split, List.takeWhile_cons_of_pos hc, List.dropWhile_cons_of_pos hc]
        rw [hsplit, List.map_cons]
        exact (reads_unescaped hc cs hrest).append hreads
    · obtain ⟨pieces, -, hflat, hreads⟩ := reads_escapedText hrest cs
      refine ⟨[c] :: pieces, fun _ => by simp, by rw [List.flatten_cons, hflat]; rfl, ?_⟩
      exact (reads_escape hc _).append hreads
termination_by cs => cs.length
decreasing_by
  · exact Nat.lt_succ_of_le hshorter
  · exact Nat.lt_succ_self _

/-! ## Start tags -/

/-- An attribute as it is written, with a space before it and its value in double quotes. -/
def attributeText (a : Attribute) : List Char :=
  ' ' :: a.name.toList ++ '=' :: '"' :: escapedValue a.value.toList ++ ['"']

/-- The written form of an attribute before its value is decoded. -/
def quoted (a : Attribute) : WrittenAttribute := ⟨a.name.toList, some (escapedValue a.value.toList)⟩

/-- A name that an attribute can be read back with: it starts an attribute after a space, goes on with
    characters of a name, and is in lower case. -/
structure ReadableName (name : List Char) : Prop where
  starts : ∃ c cs, name = c :: cs ∧ startsAttribute ' ' c = true ∧
    ∀ d ∈ cs, isAttributeNameChar d = true
  lower : Unicode.lower name = name

theorem writtenValue_quoted (v tail : List Char) :
    writtenValue? ('=' :: '"' :: (escapedValue v ++ '"' :: tail))
      = some (escapedValue v, '"', tail) := by
  have hnone := quote_notMem_escapedValue v
  have hquote : valueFrom? false false ('"' :: (escapedValue v ++ '"' :: tail))
      = some (escapedValue v, '"', tail) := by
    rw [valueFrom?, if_pos (by decide), if_pos (by simp), takeWhile_ne_append hnone, dropWhile_ne_append hnone,
      List.drop_one, List.tail_cons]
  exact hquote

theorem writtenAttributes_cons {prev c : Char} {cs : List Char}
    (hstarts : startsAttribute prev c = true) (hname : ∀ d ∈ cs, isAttributeNameChar d = true)
    (v tail : List Char) :
    writtenAttributes prev (c :: cs ++ '=' :: '"' :: escapedValue v ++ '"' :: tail)
      = (⟨c :: cs, some (escapedValue v)⟩ ::
          (writtenAttributes (skipGap '"' tail).1 (skipGap '"' tail).2).1,
        (writtenAttributes (skipGap '"' tail).1 (skipGap '"' tail).2).2) := by
  have hstop : isAttributeNameChar '=' = false := by decide
  have htake : (cs ++ '=' :: '"' :: (escapedValue v ++ '"' :: tail)).takeWhile isAttributeNameChar
      = cs := takeWhile_run_cons hname hstop _
  have hdrop : (cs ++ '=' :: '"' :: (escapedValue v ++ '"' :: tail)).dropWhile isAttributeNameChar
      = '=' :: '"' :: (escapedValue v ++ '"' :: tail) := dropWhile_run_cons hname hstop _
  have hcs : c :: cs ++ '=' :: '"' :: escapedValue v ++ '"' :: tail
      = c :: (cs ++ '=' :: '"' :: (escapedValue v ++ '"' :: tail)) := by simp
  rw [hcs, writtenAttributes, if_pos hstarts]
  dsimp only
  split
  · next hnone =>
    rw [hdrop, writtenValue_quoted] at hnone
    cases hnone
  · next value last afterValue hsome =>
    rw [hdrop, writtenValue_quoted] at hsome
    obtain ⟨rfl, rfl, rfl⟩ : escapedValue v = value ∧ '"' = last ∧ tail = afterValue := by
      simpa using hsome
    rw [htake]

/-- `tail` ends a tag: after the blanks at its start comes `closing`, which starts no attribute. -/
def ClosesTag (tail closing : List Char) : Prop :=
  ∀ prev, (skipGap prev tail).2 = closing ∧
    writtenAttributes (skipGap prev tail).1 closing = ([], closing)

/-- Written attributes in front of the end of a tag are found as they were written. -/
theorem writtenAttributes_attributeText {tail closing : List Char} (hclose : ClosesTag tail closing)
    {attrs : List Attribute} (hnames : ∀ a ∈ attrs, ReadableName a.name.toList) (prev : Char) :
    writtenAttributes (skipGap prev (attrs.flatMap attributeText ++ tail)).1
        (skipGap prev (attrs.flatMap attributeText ++ tail)).2
      = (attrs.map quoted, closing) := by
  induction attrs generalizing prev with
  | nil =>
    obtain ⟨hrest, hnone⟩ := hclose prev
    rw [List.flatMap_nil, List.nil_append, hrest]
    exact hnone
  | cons a attrs ih =>
    obtain ⟨c, cs, hname, hstarts, hcs⟩ := (hnames a List.mem_cons_self).starts
    have hgap : skipGap prev ((a :: attrs).flatMap attributeText ++ tail)
        = (' ', c :: cs ++ '=' :: '"' :: escapedValue a.value.toList
            ++ '"' :: (attrs.flatMap attributeText ++ tail)) := by
      have hc : ¬(Text.isBlankChar c || (c = '/' && decide
          ((cs ++ '=' :: '"' :: escapedValue a.value.toList
            ++ '"' :: (attrs.flatMap attributeText ++ tail)).head? ≠ some '>'))) = true := by
        simp only [startsAttribute, Bool.and_eq_true, Bool.not_eq_true', Bool.or_eq_false_iff,
          decide_eq_false_iff_not] at hstarts
        simp [hstarts.2.1.1, hstarts.2.1.2]
      have htext : (a :: attrs).flatMap attributeText ++ tail
          = ' ' :: c :: (cs ++ '=' :: '"' :: escapedValue a.value.toList
            ++ '"' :: (attrs.flatMap attributeText ++ tail)) := by
        simp [attributeText, hname]
      rw [htext, skipGap, if_pos (by rw [Text.isBlankChar_space, Bool.true_or]), skipGap, if_neg hc]
      rfl
    rw [hgap]
    dsimp only
    rw [writtenAttributes_cons hstarts hcs, ih fun b hb => hnames b (List.mem_cons_of_mem a hb),
      List.map_cons, quoted, hname]

theorem decode_quoted {a : Attribute} (hlower : Unicode.lower a.name.toList = a.name.toList) :
    (quoted a).decode = .ok a := by
  have hvalue : decodeValue ((quoted a).value.getD []) = .ok a.value.toList :=
    decodeValue_escapedValue a.value.toList
  rw [WrittenAttribute.decode, hvalue]
  change Except.ok (Attribute.mk (.ofList (Unicode.lower a.name.toList)) (.ofList a.value.toList))
    = .ok a
  rw [hlower, String.ofList_toList, String.ofList_toList]

theorem mapM_decode_quoted {attrs : List Attribute}
    (hnames : ∀ a ∈ attrs, ReadableName a.name.toList) :
    (attrs.map quoted).mapM WrittenAttribute.decode = .ok attrs := by
  induction attrs with
  | nil => rfl
  | cons a attrs ih =>
    rw [List.map_cons, List.mapM_cons, decode_quoted (hnames a List.mem_cons_self).lower,
      ih fun b hb => hnames b (List.mem_cons_of_mem a hb)]
    rfl

theorem firstOfEachName_eq_self {attrs : List Attribute} (h : (attrs.map Attribute.name).Nodup) :
    firstOfEachName attrs = attrs := by
  induction attrs with
  | nil => rfl
  | cons a attrs ih =>
    rw [List.map_cons, List.nodup_cons] at h
    rw [firstOfEachName, ih h.2, List.filter_eq_self.2]
    intro b hb
    refine decide_eq_true fun heq => h.1 ?_
    exact heq ▸ List.mem_map_of_mem hb

/-- A name that a tag can be read back with: it starts with an ASCII letter, holds no character that
    ends the name of a tag, and is in lower case. -/
structure ReadableTag (name : List Char) : Prop where
  starts : ∃ c cs, name = c :: cs ∧ isAsciiLetter c = true
  continues : ∀ c ∈ name, endsTagName c = false
  lower : Unicode.lower name = name

/-- The ends of a written start tag: a bracket, or a slash and a bracket after a space. -/
def tagEnd (selfClosing : Bool) : List Char := if selfClosing then [' ', '/', '>'] else ['>']

/-- A start tag as it is written. -/
def startTagText (tag : String) (attrs : List Attribute) (selfClosing : Bool) : List Char :=
  '<' :: tag.toList ++ attrs.flatMap attributeText ++ tagEnd selfClosing

theorem writtenAttributes_of_not_starts {prev c : Char} (h : startsAttribute prev c = false)
    (cs : List Char) : writtenAttributes prev (c :: cs) = ([], c :: cs) := by
  rw [writtenAttributes, if_neg (by simp [h])]

theorem closesTag_tagEnd (selfClosing : Bool) (rest : List Char) :
    ClosesTag (tagEnd selfClosing ++ rest)
      (if selfClosing then '/' :: '>' :: rest else '>' :: rest) := by
  intro prev
  cases selfClosing with
  | false =>
    have hgap : skipGap prev ('>' :: rest) = (prev, '>' :: rest) := by
      rw [skipGap, if_neg (by simp [Text.isBlankChar])]
    have hstarts : startsAttribute prev '>' = false := by simp [startsAttribute]
    refine ⟨congrArg Prod.snd hgap, ?_⟩
    exact writtenAttributes_of_not_starts (by simp [startsAttribute]) rest
  | true =>
    have hgap : skipGap prev (' ' :: '/' :: '>' :: rest) = (' ', '/' :: '>' :: rest) := by
      rw [skipGap, if_pos (by rw [Text.isBlankChar_space, Bool.true_or]), skipGap,
        if_neg (by simp [Text.isBlankChar])]
    refine ⟨congrArg Prod.snd hgap, ?_⟩
    exact writtenAttributes_of_not_starts (by simp [startsAttribute]) ('>' :: rest)

/-- A written start tag is read with its name and the first attribute of each name. -/
theorem startTag_startTagText {tag : String} {attrs : List Attribute}
    (htag : ReadableTag tag.toList) (hnames : ∀ a ∈ attrs, ReadableName a.name.toList)
    (selfClosing : Bool) (rest : List Char) :
    startTag (tag.toList ++ (attrs.flatMap attributeText ++ (tagEnd selfClosing ++ rest)))
      = .ok (.tag tag (firstOfEachName attrs) selfClosing rest) := by
  have hcontinues : ∀ c ∈ tag.toList, (!endsTagName c) = true := fun c hc => by
    rw [htag.continues c hc]
    rfl
  have hname : String.ofList (Unicode.lower tag.toList) = tag := by rw [htag.lower, String.ofList_toList]
  have hstop : ∃ c cs, attrs.flatMap attributeText ++ (tagEnd selfClosing ++ rest) = c :: cs ∧
      endsTagName c = true := by
    cases attrs with
    | nil => cases selfClosing <;> exact ⟨_, _, rfl, by decide⟩
    | cons a attrs => exact ⟨_, _, rfl, by decide⟩
  obtain ⟨d, ds, hds, hd⟩ := hstop
  have hends : (!endsTagName d) = false := by rw [hd]; rfl
  have htake := takeWhile_run_cons hcontinues hends ds
  have hdrop := dropWhile_run_cons hcontinues hends ds
  have hwritten := writtenAttributes_attributeText (closesTag_tagEnd selfClosing rest) hnames
    (tag.toList.getLastD '<')
  rw [startTag, hds, htake, hdrop, ← hds, hwritten]
  dsimp only
  cases selfClosing with
  | false =>
    simp only [Bool.false_eq_true, if_false, hname]
    rw [if_neg (by simp [isAsciiLetter]), mapM_decode_quoted hnames]
    rfl
  | true =>
    simp only [if_true, hname]
    rw [if_neg (by simp [isAsciiLetter]), mapM_decode_quoted hnames]
    rfl

/-- The token of a start tag. -/
def startToken (tag : String) (attrs : List Attribute) (selfClosing : Bool) : Token :=
  if selfClosing then .selfClosing tag attrs else .opening tag attrs

/-- A start tag is a construct; that of an element of raw text changes the mode. -/
theorem construct_of_startTag {c : Char} {cs rest : List Char} {tag : String}
    {attrs : List Attribute} {selfClosing : Bool} (hc : isAsciiLetter c = true)
    (h : startTag (c :: cs) = .ok (.tag tag attrs selfClosing rest)) :
    construct .markup (c :: cs) = .ok (some ⟨[startToken tag attrs selfClosing],
      if !selfClosing && isRawTextElement tag then .rawText tag else .markup, rest⟩) := by
  have hslash : c ≠ '/' := by rintro rfl; exact absurd hc (by decide)
  have hbang : c ≠ '!' := by rintro rfl; exact absurd hc (by decide)
  have hquestion : c ≠ '?' := by rintro rfl; exact absurd hc (by decide)
  unfold construct
  split
  · next heq => cases heq
  · next heq => exact absurd (List.cons.inj heq).1 hslash
  · next heq => exact absurd (List.cons.inj heq).1 hbang
  · next heq => exact absurd (List.cons.inj heq).1 hquestion
  · next heq => exact absurd (List.cons.inj heq).1 hbang
  · next heq =>
    obtain ⟨rfl, rfl⟩ := List.cons.inj heq
    rw [if_pos hc, h]
    cases selfClosing <;> rfl

/-- A bracket that starts a construct is read as that construct. -/
theorem step_bracket {cs : List Char} {s : Scanned} (h : construct .markup cs = .ok (some s)) :
    step false .markup ('<' :: cs) = .ok (.next s) := by
  rw [step, if_pos rfl, bracketed, h]
  rfl

/-- The mode after a start tag. -/
def modeAfter (tag : String) (selfClosing : Bool) : Mode :=
  if !selfClosing && isRawTextElement tag then .rawText tag else .markup

/-- A written start tag is read as its token, with the first attribute of each name. -/
theorem reads_startTag {tag : String} {attrs : List Attribute} (htag : ReadableTag tag.toList)
    (hnames : ∀ a ∈ attrs, ReadableName a.name.toList) (selfClosing : Bool) (rest : List Char) :
    ReadsFrom .markup (startTagText tag attrs selfClosing)
      [startToken tag (firstOfEachName attrs) selfClosing] (modeAfter tag selfClosing) rest := by
  obtain ⟨c, cs, hname, hc⟩ := htag.starts
  have hstart := startTag_startTagText htag hnames selfClosing rest
  refine readsFrom_of_step ?_
  have htext : startTagText tag attrs selfClosing ++ rest
      = '<' :: c :: (cs ++ (attrs.flatMap attributeText ++ (tagEnd selfClosing ++ rest))) := by
    simp [startTagText, hname]
  rw [hname, List.cons_append] at hstart
  rw [htext]
  exact step_bracket (construct_of_startTag hc hstart)

/-! ## End tags -/

/-- An end tag as it is written. -/
def endTagText (tag : String) : List Char := '<' :: '/' :: tag.toList ++ ['>']

theorem search_bracket {body : List Char} (h : '>' ∉ body) (rest : List Char) :
    search? bracket? (body ++ '>' :: rest) = some (body, rest) := by
  induction body with
  | nil => rfl
  | cons c body ih =>
    have hc : c ≠ '>' := fun heq => h (heq ▸ List.mem_cons_self)
    have hnone : bracket? (c :: (body ++ '>' :: rest)) = none := by
      unfold bracket?
      split
      · next heq => exact absurd (List.cons.inj heq).1 hc
      · rfl
    rw [List.cons_append, search?, hnone]
    dsimp only
    rw [ih fun hmem => h (List.mem_cons_of_mem c hmem)]
    rfl

/-- Whether an end tag is taken to name something else: after the characters that the name of an end tag
    can have there is nothing but white space, and that counts as a gap before the bracket. -/
def isMisnamed (name : List Char) : Bool :=
  let rest := name.dropWhile isEndNameChar
  !rest.isEmpty && rest.all Text.isBlankChar

/-- The name of a written end tag as far as it goes, if only white space follows. -/
theorem endTagName_of_readable {c : Char} (hc : isAsciiLetter c = true) {cs : List Char}
    (hcs : '>' ∉ cs) (rest : List Char) : endTagName? (c :: (cs ++ '>' :: rest)) =
      if (cs.dropWhile isEndNameChar).all Text.isBlankChar then some (c :: cs.takeWhile isEndNameChar)
      else none := by
  have hblank : Text.isBlankChar c = false := isBlankChar_of_isAsciiLetter hc
  have hstop : isEndNameChar '>' = false := by decide
  have htrim : Text.trimStart (c :: (cs ++ '>' :: rest)) = c :: (cs ++ '>' :: rest) := by
    rw [Text.trimStart, List.dropWhile_cons_of_neg (by simp [hblank])]
  rw [endTagName?, htrim]
  dsimp only
  rw [if_pos hc, takeWhile_append_stop cs hstop, dropWhile_append_stop cs hstop, Text.trimStart]
  by_cases hall : (cs.dropWhile isEndNameChar).all Text.isBlankChar = true
  · rw [if_pos hall, List.dropWhile_append_of_pos (List.all_eq_true.1 hall)]
    rfl
  · -- what follows the name is a character of the tag, and no bracket
    rw [if_neg hall, List.dropWhile_append]
    cases hrest : (cs.dropWhile isEndNameChar).dropWhile Text.isBlankChar with
    | nil => exact absurd (List.all_eq_true.2 (List.dropWhile_eq_nil_iff.1 hrest)) hall
    | cons d ds =>
      have hd : d ∈ cs := by
        have hmem : d ∈ (cs.dropWhile isEndNameChar).dropWhile Text.isBlankChar :=
          hrest ▸ List.mem_cons_self
        exact List.dropWhile_subset _ (List.dropWhile_subset _ hmem)
      have hnone : bracket? (d :: (ds ++ '>' :: rest)) = none := by
        unfold bracket?
        split
        · next heq => exact absurd ((List.cons.inj heq).1 ▸ hd) hcs
        · rfl
      simp [hnone]

/-- What a written end tag is read as. It closes the element that it names, unless it is misnamed. -/
theorem endTag_of_readable {name : List Char} (h : ReadableTag name) (rest : List Char) :
    ∃ closed, endTag .markup (name ++ '>' :: rest) = some (.plain .markup (.closing closed) rest) ∧
      (isMisnamed name = false → closed = .ofList name) := by
  obtain ⟨c, cs, rfl, hc⟩ := h.starts
  have hbracket : '>' ∉ c :: cs := fun hmem => absurd (h.continues '>' hmem) (by decide)
  have hname := endTagName_of_readable hc (fun hmem => hbracket (List.mem_cons_of_mem c hmem)) rest
  have hfirst : isEndNameChar c = true := by rw [isEndNameChar, hc]; rfl
  rw [endTag, search_bracket hbracket, List.cons_append, hname]
  by_cases hall : (cs.dropWhile isEndNameChar).all Text.isBlankChar = true
  · rw [if_pos hall]
    refine ⟨_, rfl, fun hnamed => ?_⟩
    rw [isMisnamed, List.dropWhile_cons_of_pos hfirst, hall, Bool.and_true, Bool.not_eq_false',
      List.isEmpty_iff, List.dropWhile_eq_nil_iff] at hnamed
    rw [List.takeWhile_eq_self_iff.2 hnamed, h.lower]
  · rw [if_neg hall]
    have hwhole : (c :: cs).takeWhile (fun d => !endsTagName d) = c :: cs :=
      List.takeWhile_eq_self_iff.2 fun d hd => by rw [h.continues d hd]; rfl
    refine ⟨.ofList (c :: cs), ?_, fun _ => rfl⟩
    change (if isAsciiLetter c = true then some (Scanned.plain .markup (.closing (.ofList
        (Unicode.lower ((c :: cs).takeWhile fun d => !endsTagName d)))) rest)
      else some (Scanned.plain .markup (.comment (c :: cs)) rest)) = _
    rw [if_pos hc, hwhole, h.lower]

/-- A written end tag is read as one that closes something. -/
theorem exists_reads_endTag {tag : String} (htag : ReadableTag tag.toList) (rest : List Char) :
    ∃ closed, Reads (endTagText tag) [.closing closed] rest ∧
      (isMisnamed tag.toList = false → closed = tag) := by
  obtain ⟨closed, hend, hnamed⟩ := endTag_of_readable htag rest
  refine ⟨closed, readsFrom_of_step ?_, fun h => ?_⟩
  · have htext : endTagText tag ++ rest = '<' :: '/' :: (tag.toList ++ '>' :: rest) := by
      simp [endTagText]
    rw [htext]
    refine step_bracket ?_
    rw [construct, hend]
    rfl
  · rw [hnamed h, String.ofList_toList]

/-! ## Raw text -/

theorem eq_of_isRawTextElement {tag : String} (h : isRawTextElement tag = true) :
    tag = "script" ∨ tag = "style" := by
  simpa [isRawTextElement] using h

theorem rawTextEnd_endTagText {tag : String} (h : isRawTextElement tag = true) (rest : List Char) :
    rawTextEnd? tag (endTagText tag ++ rest) = some rest := by
  rcases eq_of_isRawTextElement h with rfl | rfl <;> rfl

/-- Raw text goes up to the end tag if it has no opening bracket. -/
theorem search_rawTextEnd {tag : String} {cs rest after : List Char} (h : '<' ∉ cs)
    (hend : rawTextEnd? tag rest = some after) :
    search? (rawTextEnd? tag) (cs ++ rest) = some (cs, after) := by
  induction cs with
  | nil =>
    cases rest with
    | nil => cases hend
    | cons c rest =>
      rw [List.nil_append, search?, hend]
  | cons c cs ih =>
    have hnone : rawTextEnd? tag (c :: (cs ++ rest)) = none := by
      unfold rawTextEnd?
      split
      · next heq => exact absurd ((List.cons.inj heq).1 ▸ List.mem_cons_self) h
      · rfl
    rw [List.cons_append, search?, hnone]
    dsimp only
    rw [ih fun hmem => h (List.mem_cons_of_mem c hmem)]
    rfl

theorem reads_rawText {tag : String} (htag : isRawTextElement tag = true) {cs : List Char}
    (hne : cs ≠ []) (h : '<' ∉ cs) (rest : List Char) :
    ReadsFrom (.rawText tag) cs [.text cs] (.rawText tag) (endTagText tag ++ rest) := by
  refine readsFrom_of_step ?_
  rw [step, search_rawTextEnd h (rawTextEnd_endTagText htag rest)]
  obtain ⟨c, tail, rfl⟩ := List.exists_cons_of_ne_nil hne
  simp [Scanned.plain]

theorem reads_rawTextEnd {tag : String} (htag : isRawTextElement tag = true) (rest : List Char) :
    ReadsFrom (.rawText tag) (endTagText tag) [.closing tag] .markup rest := by
  refine readsFrom_of_step ?_
  have hnone : '<' ∉ ([] : List Char) := List.not_mem_nil
  have hsearch := search_rawTextEnd hnone (rawTextEnd_endTagText htag rest)
  have hbracket : '>' ∉ tag.toList := by
    rcases eq_of_isRawTextElement htag with rfl | rfl <;> decide
  have htext : endTagText tag ++ rest = '<' :: '/' :: (tag.toList ++ '>' :: rest) := by
    simp [endTagText]
  rw [step]
  rw [List.nil_append] at hsearch
  rw [hsearch]
  simp only [htext, List.drop_succ_cons, List.drop_zero]
  rw [bracketed, construct, endTag, search_bracket hbracket]
  rcases eq_of_isRawTextElement htag with rfl | rfl <;> rfl

/-! ## Comments -/

/-- A comment as it is written. -/
def commentText (data : List Char) : List Char := '<' :: '!' :: '-' :: '-' :: data ++ ['-', '-', '>']

/-- Nothing in the payload of a comment ends it: no part of it is two hyphens, blanks and a bracket. -/
def EndsNoComment (data : List Char) : Prop := ∀ cs, cs <:+ data → commentEnd? cs = none

theorem bracket_trimStart_append {cs : List Char} (h : bracket? (Text.trimStart cs) = none)
    (rest : List Char) : bracket? (Text.trimStart (cs ++ '-' :: '-' :: '>' :: rest)) = none := by
  rw [Text.trimStart] at h ⊢
  rw [List.dropWhile_append]
  cases hcs : cs.dropWhile Text.isBlankChar with
  | nil => rfl
  | cons c tail =>
    rw [hcs] at h
    rw [if_neg (by simp), List.cons_append]
    unfold bracket? at h ⊢
    split at h
    · cases h
    · next hne =>
      split
      · next heq => exact absurd (congrArg (· :: tail) (List.cons.inj heq).1) (hne tail)
      · rfl

/-- The mark after a payload that does not end a comment is not completed by characters of the
    payload. -/
theorem commentEnd_append {cs : List Char} (hne : cs ≠ []) (h : commentEnd? cs = none)
    (rest : List Char) : commentEnd? (cs ++ '-' :: '-' :: '>' :: rest) = none := by
  match cs, hne, h with
  | [c], _, _ =>
    unfold commentEnd?
    split
    · next tail heq =>
      simp only [List.cons_append, List.nil_append, List.cons.injEq] at heq
      obtain ⟨-, -, rfl⟩ := heq
      rfl
    · rfl
  | c :: d :: tail, _, h =>
    unfold commentEnd? at h ⊢
    split
    · next tail' heq =>
      simp only [List.cons_append, List.cons.injEq] at heq
      obtain ⟨rfl, rfl, rfl⟩ := heq
      exact bracket_trimStart_append h rest
    · rfl

theorem search_commentEnd {data : List Char} (h : EndsNoComment data) (rest : List Char) :
    search? commentEnd? (data ++ '-' :: '-' :: '>' :: rest) = some (data, rest) := by
  induction data with
  | nil => rfl
  | cons c data ih =>
    have hnone := commentEnd_append (List.cons_ne_nil c data)
      (h _ (List.suffix_refl _)) rest
    rw [List.cons_append] at hnone ⊢
    rw [search?, hnone]
    dsimp only
    rw [ih fun cs hcs => h cs (hcs.trans (List.suffix_cons c data))]
    rfl

/-- A written comment is read as its token. -/
theorem reads_comment {data : List Char} (h : EndsNoComment data) (rest : List Char) :
    Reads (commentText data) [.comment data] rest := by
  refine readsFrom_of_step ?_
  have htext : commentText data ++ rest
      = '<' :: '!' :: '-' :: '-' :: (data ++ '-' :: '-' :: '>' :: rest) := by
    simp [commentText]
  rw [htext]
  refine step_bracket ?_
  rw [construct, search_commentEnd h]
  rfl

end MarkupCleaner.Markup
