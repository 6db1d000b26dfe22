import Mathlib.Data.List.Infix
import MarkupCleaner.Proofs.Data.Except
import MarkupCleaner.Proofs.Markup.Suffixes

/-!
# Numbers with too many digits in a start tag

Decoding an attribute value goes from reference to reference, and none of them holds an ampersand. So a
value is refused for the first place in it where an ampersand, a number sign and too many digits follow
each other, and a start tag for the first value that is.
-/

namespace MarkupCleaner.Markup

/-! ## References in values -/

/-- The digits of the decimal reference that starts here, if they are too many. -/
def overlongAt? : List Char → Option Number.DigitLimit
  | '&' :: '#' :: cs =>
    let digits := cs.takeWhile isAsciiDigit
    if digits.length ≤ Number.maxDigits then none else some ⟨digits.length⟩
  | _ => none

/-- The first decimal reference that has too many digits. -/
def overlong? (cs : List Char) : Option Number.DigitLimit := cs.tails.findSome? overlongAt?

@[simp] theorem overlong_nil : overlong? [] = none := rfl

theorem overlong_cons (c : Char) (cs : List Char) :
    overlong? (c :: cs) = (overlongAt? (c :: cs)).or (overlong? cs) := by
  rw [overlong?, List.tails_cons, List.findSome?_cons]
  cases overlongAt? (c :: cs) <;> rfl

theorem overlong_cons_of_ne {c : Char} (hc : c ≠ '&') (cs : List Char) :
    overlong? (c :: cs) = overlong? cs := by
  have hat : overlongAt? (c :: cs) = none := by
    unfold overlongAt?
    split
    · next heq => exact absurd (List.cons.inj heq).1 hc
    · rfl
  rw [overlong_cons, hat, Option.none_or]

/-- Nothing is overlong before the first ampersand. -/
theorem overlong_append {front : List Char} (h : '&' ∉ front) (cs : List Char) :
    overlong? (front ++ cs) = overlong? cs := by
  induction front with
  | nil => rfl
  | cons c front ih =>
    rw [List.cons_append, overlong_cons_of_ne (List.ne_of_not_mem_cons h).symm,
      ih (List.not_mem_of_not_mem_cons h)]

theorem exists_of_overlong {cs : List Char} {limit : Number.DigitLimit} (h : overlong? cs = some limit) :
    ∃ digits, '&' :: '#' :: digits <:+: cs ∧ digits.all isAsciiDigit ∧
      Number.maxDigits < digits.length := by
  obtain ⟨tail, htail, hat⟩ := List.exists_of_findSome?_eq_some h
  unfold overlongAt? at hat
  split at hat
  · next after =>
    dsimp only at hat
    split at hat
    · cases hat
    · next hlong =>
      refine ⟨after.takeWhile isAsciiDigit, ?_, List.all_takeWhile, Nat.lt_of_not_le hlong⟩
      have hfront : '&' :: '#' :: after.takeWhile isAsciiDigit <+: '&' :: '#' :: after :=
        List.prefix_append_right_inj ['&', '#'] |>.2 (List.takeWhile_prefix _)
      exact hfront.isInfix.trans ((List.mem_tails _ _).1 htail).isInfix
  · cases hat

/-- A run of characters and the semicolon after it hold no ampersand if the run holds none. -/
theorem exists_front_of_dropSemicolon {run cs : List Char} (hrun : run <+: cs) (hamp : '&' ∉ run) :
    ∃ front, cs = front ++ (dropSemicolon (cs.drop run.length)).2 ∧ '&' ∉ front := by
  have hcs : cs = run ++ cs.drop run.length := List.prefix_iff_eq_append.1 hrun |>.symm
  unfold dropSemicolon
  split
  · next tail heq =>
    rw [heq] at hcs
    exact ⟨run ++ [';'], by simpa using hcs, by simpa using hamp⟩
  · exact ⟨run, hcs, hamp⟩

theorem ampersand_notMem_takeWhile {isPart : Char → Bool} (h : isPart '&' = false) (cs : List Char) :
    '&' ∉ cs.takeWhile isPart := by
  intro hmem
  rw [List.mem_takeWhile_imp hmem] at h
  cases h

theorem overlongAt_of_not_digit {c : Char} (hc : isAsciiDigit c = false) (cs : List Char) :
    overlongAt? ('&' :: '#' :: c :: cs) = none := by
  simp [overlongAt?, List.takeWhile_cons_of_neg, hc]

theorem text_decimal_eq_error_iff (cs : List Char) (limit : Number.DigitLimit) :
    (ValueReference.numbered false (cs.takeWhile isAsciiDigit)).text = .error limit ↔
      overlongAt? ('&' :: '#' :: cs) = some limit := by
  rw [ValueReference.text, except_map_eq_error]
  simp only [referenceNumber, Bool.false_eq_true, if_false, Number.whole, overlongAt?]
  split <;> simp

/-- A hexadecimal reference has no limit. -/
theorem hexadecimal_spec {x : Char} (hx : x ≠ '&') (hdigit : isAsciiDigit x = false) (cs : List Char) :
    let digits := cs.takeWhile Number.isHexDigit
    (∃ front, '#' :: x :: cs = front ++ (dropSemicolon (cs.drop digits.length)).2 ∧ '&' ∉ front) ∧
      ∀ limit, (ValueReference.numbered true digits).text = .error limit ↔
        overlongAt? ('&' :: '#' :: x :: cs) = some limit := by
  intro digits
  obtain ⟨front, hfront, hamp⟩ := exists_front_of_dropSemicolon (List.takeWhile_prefix Number.isHexDigit)
    (ampersand_notMem_takeWhile (by decide) cs)
  refine ⟨⟨'#' :: x :: front, congrArg (['#', x] ++ ·) hfront, by simp [hamp, hx.symm]⟩, fun limit => ?_⟩
  rw [overlongAt_of_not_digit hdigit, ValueReference.text, except_map_eq_error]
  simp [referenceNumber]

/-- A reference holds no further ampersand, and it is refused if it is decimal and its digits are too
many. -/
theorem valueReference_spec {cs rest : List Char} {r : ValueReference}
    (h : valueReference? cs = some (r, rest)) :
    (∃ front, cs = front ++ rest ∧ '&' ∉ front) ∧
      ∀ limit, r.text = .error limit ↔ overlongAt? ('&' :: cs) = some limit := by
  unfold valueReference? at h
  split at h
  · next tail =>
    dsimp only at h
    split at h <;> cases h
    exact hexadecimal_spec (by decide) (by decide) tail
  · next tail =>
    dsimp only at h
    split at h <;> cases h
    exact hexadecimal_spec (by decide) (by decide) tail
  · next tail _ _ =>
    dsimp only at h
    split at h <;> cases h
    refine ⟨?_, text_decimal_eq_error_iff tail⟩
    obtain ⟨front, hfront, hamp⟩ := exists_front_of_dropSemicolon (List.takeWhile_prefix isAsciiDigit)
      (ampersand_notMem_takeWhile (by decide) tail)
    exact ⟨'#' :: front, congrArg ('#' :: ·) hfront, by simpa using hamp⟩
  · next hhash =>
    dsimp only at h
    split at h <;> cases h
    have hname : (cs.take 32).takeWhile isReferenceChar <+: cs :=
      (List.takeWhile_prefix _).trans (List.take_prefix _ _)
    have hat : overlongAt? ('&' :: cs) = none := by
      unfold overlongAt?
      split
      · next tail heq => exact absurd (List.cons.inj heq).2 (hhash tail)
      · rfl
    refine ⟨exists_front_of_dropSemicolon hname (ampersand_notMem_takeWhile (by decide) _), ?_⟩
    simp [ValueReference.text, hat]

/-- An ampersand that starts no reference is not followed by the digits of one. -/
theorem overlongAt_of_valueReference_none {cs : List Char} (h : valueReference? cs = none) :
    overlongAt? ('&' :: cs) = none := by
  unfold overlongAt?
  split
  · next tail heq =>
    cases heq
    have hnil : tail.takeWhile isAsciiDigit = [] := by
      unfold valueReference? at h
      split at h
      · next heq =>
        rw [(List.cons.inj heq).2]
        exact List.takeWhile_cons_of_neg (by decide)
      · next heq =>
        rw [(List.cons.inj heq).2]
        exact List.takeWhile_cons_of_neg (by decide)
      · next heq =>
        rw [(List.cons.inj heq).2]
        dsimp only at h
        split at h
        · next hempty => exact List.isEmpty_iff.1 hempty
        · cases h
      · next hhash => exact absurd rfl (hhash tail)
    simp [hnil]
  · rfl

/-- A value is refused for the first decimal reference in it that has too many digits. -/
theorem decodeValue_eq_error_iff (cs : List Char) (limit : Number.DigitLimit) :
    decodeValue cs = .error limit ↔ overlong? cs = some limit := by
  fun_induction decodeValue cs with
  | case1 => simp
  | case2 cs r rest h ih =>
    obtain ⟨⟨front, rfl, hamp⟩, htext⟩ := valueReference_spec h
    rw [overlong_cons, overlong_append hamp]
    exact bind_eq_error_iff_or htext fun text => except_map_eq_error.trans ih
  | case3 cs h ih =>
    rw [overlong_cons, overlongAt_of_valueReference_none h, Option.none_or, ← ih]
    exact except_map_eq_error
  | case4 c cs hc ih =>
    rw [overlong_cons_of_ne hc, ← ih]
    exact except_map_eq_error

/-! ## Start tags -/

/-- The first decimal reference in the value that has too many digits. -/
def WrittenAttribute.overlong? (w : WrittenAttribute) : Option Number.DigitLimit :=
  Markup.overlong? (w.value.getD [])

/-- Whether what is left after its attributes ends a start tag, be it that the tag counts as text. -/
def endsStartTag : List Char → Bool
  | [] => false
  | c :: after => !(isAsciiLetter c || c = '=' || (c = '/' && after.head? ≠ some '>'))

theorem decode_eq_error_iff (w : WrittenAttribute) (limit : Number.DigitLimit) :
    w.decode = .error limit ↔ w.overlong? = some limit :=
  except_map_eq_error.trans (decodeValue_eq_error_iff _ limit)

/-- A start tag is refused for the first decimal reference with too many digits in its values, if it
ends. -/
theorem startTag_eq_error_iff (cs : List Char) (limit : Number.DigitLimit) :
    startTag cs = .error limit ↔
      endsStartTag (tagParts cs).2 ∧ (tagParts cs).1.findSome? WrittenAttribute.overlong? = some limit := by
  rw [← mapM_eq_error_iff decode_eq_error_iff]
  unfold startTag
  dsimp only
  split
  · next heq =>
    have hrest : (tagParts cs).2 = [] := heq
    simp [hrest, endsStartTag]
  · next c after heq =>
    have hrest : (tagParts cs).2 = c :: after := heq
    rw [hrest]
    split
    · next hgoesOn =>
      simp only [endsStartTag, hgoesOn, Bool.not_true, reduceCtorEq, Bool.false_eq_true, false_and]
    · next hends =>
      simp only [endsStartTag, hends, Bool.not_false, true_and]
      refine bind_eq_error_iff_left fun attrs hattrs => ?_
      split at hattrs <;> cases hattrs

end MarkupCleaner.Markup
