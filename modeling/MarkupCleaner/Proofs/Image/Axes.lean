import MarkupCleaner.Proofs.Data.Runs
import MarkupCleaner.Proofs.Image.Sizes

/-!
# Sizes, one axis at a time

The size of an icon is looked up in one go over its class tokens, which stops when both lengths are known. It
comes to the same as two searches that do not know of each other: each takes the length of the first token
that tells one on its axis and sees nothing but the tokens of this axis.
-/

namespace MarkupCleaner

theorem Number.whole_eq_ok_iff {cs : List Char} {n : Nat} :
    Number.whole cs = .ok n ↔ cs.length ≤ Number.maxDigits ∧ Number.digitsValue cs = n := by
  unfold Number.whole
  split
  · next hle => simp [hle]
  · next hlong => simp [hlong]

namespace Image

/-! ## What a token tells -/

/-- Decimal digits of any script, at least one. -/
def IsNumeral (cs : List Char) : Prop := cs ≠ [] ∧ ∀ c ∈ cs, Unicode.isDecimal c = true

/-- A number of pixels in brackets, whole or with a fraction. -/
inductive IsBracketed : List Char → Length → Prop where
  | whole {digits : List Char} (hdigits : IsNumeral digits) :
    IsBracketed ('[' :: (digits ++ ['p', 'x', ']'])) (.ofDecimal (Number.digitsValue digits) 0)
  | fraction {digits fraction : List Char} (hdigits : IsNumeral digits) (hfraction : IsNumeral fraction) :
    IsBracketed ('[' :: (digits ++ '.' :: (fraction ++ ['p', 'x', ']'])))
      (.ofDecimal (Number.digitsValue (digits ++ fraction)) (-(fraction.length : Int)))

/-- The length that is written behind the lead of a size token: one in brackets, or that of a step of the spacing
    scale whose digits are not too many to be read. -/
inductive Denotes (cs : List Char) (length : Length) : Prop where
  | bracketed (h : IsBracketed cs length) : Denotes cs length
  | step (hdigits : IsNumeral cs) (hshort : cs.length ≤ Number.maxDigits)
    (hscale : scaleLength? (Number.digitsValue cs) = some length) : Denotes cs length

/-- A token of an axis with a length behind its lead. -/
def Tells (axis : Axis) (token : String) (length : Length) : Prop :=
  ∃ cs, token.toList = axis.lead ++ cs ∧ Denotes cs length

theorem isStep_iff {cs : List Char} : isStep cs = true ↔ IsNumeral cs := by
  simp [isStep, IsNumeral]

/-- A text that starts with digits is these digits and what comes after them. -/
theorem exists_numeral_append {cs : List Char} (h : ¬(cs.takeWhile Unicode.isDecimal).isEmpty = true) :
    ∃ digits after, cs.takeWhile Unicode.isDecimal = digits ∧ cs.dropWhile Unicode.isDecimal = after ∧
      IsNumeral digits ∧ cs = digits ++ after := by
  have hdigits : IsNumeral (cs.takeWhile Unicode.isDecimal) :=
    ⟨mt List.isEmpty_iff.2 h, List.all_eq_true.1 List.all_takeWhile⟩
  exact ⟨_, _, rfl, rfl, hdigits, List.takeWhile_append_dropWhile.symm⟩

theorem isDecimal_unit : Unicode.isDecimal 'p' = false := by decide +kernel

theorem isDecimal_point : Unicode.isDecimal '.' = false := by decide +kernel

theorem isBracketed_of_bracketLength? {cs : List Char} {length : Length} (h : bracketLength? cs = some length) :
    IsBracketed cs length := by
  unfold bracketLength? at h
  split at h
  · next rest =>
    dsimp only at h
    split at h
    · cases h
    · next hwhole =>
      obtain ⟨digits, after, htake, hdrop, hdigits, rfl⟩ := exists_numeral_append hwhole
      rw [htake, hdrop] at h
      split at h
      · next hunit =>
        obtain rfl := Option.some.inj h
        rw [hunit]
        exact .whole hdigits
      · split at h
        · next tail =>
          split at h
          · cases h
          · next hboth =>
            rw [Bool.or_eq_true, not_or, decide_eq_true_eq, not_not] at hboth
            obtain ⟨hpart, hunit⟩ := hboth
            obtain ⟨fraction, unit, htake', hdrop', hfraction, rfl⟩ := exists_numeral_append hpart
            rw [htake'] at h
            rw [hdrop'] at hunit
            obtain rfl := Option.some.inj h
            rw [hunit]
            exact .fraction hdigits hfraction
        · cases h
  · cases h

/-- A length in brackets is read as it is written. -/
theorem bracketLength?_eq_some_iff {cs : List Char} {length : Length} :
    bracketLength? cs = some length ↔ IsBracketed cs length := by
  constructor
  · exact isBracketed_of_bracketLength?
  · rintro (⟨hdigits⟩ | ⟨hdigits, hfraction⟩)
    · rw [bracketLength?, takeWhile_run_cons hdigits.2 isDecimal_unit, dropWhile_run_cons hdigits.2 isDecimal_unit]
      simp [hdigits.1]
    · rw [bracketLength?, takeWhile_run_cons hdigits.2 isDecimal_point,
        dropWhile_run_cons hdigits.2 isDecimal_point]
      simp [hdigits.1, hfraction.1, takeWhile_run_cons hfraction.2 isDecimal_unit,
        dropWhile_run_cons hfraction.2 isDecimal_unit]

theorem denotes_iff {cs : List Char} {length : Length} : Denotes cs length ↔
    bracketLength? cs = some length ∨ isStep cs = true ∧ scaleLength? <$> Number.whole cs = .ok (some length) := by
  rw [bracketLength?_eq_some_iff, isStep_iff, except_map_eq_ok]
  constructor
  · rintro (hbracketed | ⟨hdigits, hshort, hscale⟩)
    · exact .inl hbracketed
    · exact .inr ⟨hdigits, _, Number.whole_eq_ok_iff.2 ⟨hshort, rfl⟩, hscale⟩
  · rintro (hbracketed | ⟨hdigits, step, hwhole, hscale⟩)
    · exact .bracketed hbracketed
    · obtain ⟨hshort, rfl⟩ := Number.whole_eq_ok_iff.1 hwhole
      exact .step hdigits hshort hscale

/-- A token tells the length that is written behind its lead. -/
theorem tokenLength_eq_ok_some_iff {axis : Axis} {token : String} {length : Length} :
    tokenLength axis token = .ok (some length) ↔ Tells axis token length := by
  unfold tokenLength Tells
  cases hafter : Text.after? axis.lead token.toList with
  | none =>
    constructor
    · rintro ⟨⟩
    · rintro ⟨cs, heq, -⟩
      rw [Text.after?_eq_some_iff.2 heq] at hafter
      cases hafter
  | some rest =>
    have hbehind : ∀ cs, token.toList = axis.lead ++ cs ↔ rest = cs := by
      intro cs
      rw [Text.after?_eq_some_iff.1 hafter, List.append_cancel_left_eq]
    simp only [hbehind, exists_eq_left', denotes_iff]
    cases hbracket : bracketLength? rest with
    | some told =>
      -- digits alone are never taken for a length in brackets
      have hstep : ¬isStep rest = true := by
        intro hstep
        rw [bracketLength?_of_isStep hstep] at hbracket
        cases hbracket
      simp [hstep]
    | none =>
      by_cases hstep : isStep rest = true
      · simp [hstep]
      · simp [hstep]

theorem resolves_iff {axis : Axis} {token : String} : Resolves axis token ↔ ∃ length, Tells axis token length := by
  simp only [Resolves, tokenLength_eq_ok_some_iff]

/-! ## One axis on its own -/

/-- The tokens of an axis, whatever stands between them. -/
def axisTokens (axis : Axis) (tokens : List String) : List String :=
  tokens.filter fun token => axis.lead.isPrefixOf token.toList

/-- The search for the length of one axis. -/
def search (axis : Axis) (known : Option Length) (tokens : List String) :
    Except Number.DigitLimit (Option Length) :=
  tokens.foldlM (lookAt axis) known

theorem search_cons (axis : Axis) (known : Option Length) (token : String) (tokens : List String) :
    search axis known (token :: tokens) = lookAt axis known token >>= fun next => search axis next tokens :=
  List.foldlM_cons

/-- A length that is known stays as it is. -/
theorem search_some (axis : Axis) (length : Length) (tokens : List String) :
    search axis (some length) tokens = .ok (some length) := by
  induction tokens with
  | nil => rfl
  | cons token tokens ih =>
    rw [search_cons]
    exact ih

/-- What does not start like a token of the axis tells nothing about it. -/
theorem lookAt_eq_pure {axis : Axis} {token : String} (h : ¬axis.lead.isPrefixOf token.toList = true)
    (known : Option Length) : lookAt axis known token = pure known := by
  have hafter : Text.after? axis.lead token.toList = none := by
    rw [Option.eq_none_iff_forall_ne_some]
    intro rest hrest
    refine h (List.isPrefixOf_iff_prefix.2 ⟨rest, ?_⟩)
    exact (Text.after?_eq_some_iff.1 hrest).symm
  cases known with
  | some length => rfl
  | none =>
    change tokenLength axis token = pure none
    rw [tokenLength, hafter]
    rfl

/-- The search sees nothing but the tokens of its axis. -/
theorem search_axisTokens (axis : Axis) (known : Option Length) (tokens : List String) :
    search axis known (axisTokens axis tokens) = search axis known tokens := by
  have hstep : (fun known token => if axis.lead.isPrefixOf token.toList then lookAt axis known token
      else pure known) = lookAt axis := by
    funext known token
    by_cases h : axis.lead.isPrefixOf token.toList = true
    · rw [if_pos h]
    · rw [if_neg h, lookAt_eq_pure h]
  rw [search, axisTokens, List.foldlM_filter, hstep]
  rfl

/-- The length of an axis: that of the first token that tells one, or else the default length. -/
inductive HasLength (axis : Axis) : List String → Length → Prop where
  | told {before after : List String} {token : String} {length : Length} (htells : Tells axis token length)
    (hbefore : ∀ earlier ∈ before, ¬Resolves axis earlier) :
    HasLength axis (before ++ token :: after) length
  | untold {tokens : List String} (h : ∀ token ∈ tokens, ¬Resolves axis token) :
    HasLength axis tokens defaultLength

theorem hasLength_nil_iff {axis : Axis} {length : Length} :
    HasLength axis [] length ↔ length = defaultLength := by
  constructor
  · intro h
    generalize htokens : ([] : List String) = tokens at h
    cases h with
    | told _ _ => simp at htokens
    | untold _ => rfl
  · rintro rfl
    exact .untold nofun

theorem hasLength_cons_iff {axis : Axis} {token : String} {tokens : List String} {length : Length} :
    HasLength axis (token :: tokens) length ↔
      Tells axis token length ∨ ¬Resolves axis token ∧ HasLength axis tokens length := by
  constructor
  · intro h
    generalize htokens : token :: tokens = all at h
    cases h with
    | @told before after teller _ htells hbefore =>
      cases before with
      | nil =>
        obtain ⟨rfl, rfl⟩ := List.cons.inj htokens
        exact .inl htells
      | cons first before =>
        obtain ⟨rfl, rfl⟩ := List.cons.inj htokens
        obtain ⟨hfirst, hrest⟩ := List.forall_mem_cons.1 hbefore
        exact .inr ⟨hfirst, .told htells hrest⟩
    | untold hsilent =>
      subst htokens
      obtain ⟨hfirst, hrest⟩ := List.forall_mem_cons.1 hsilent
      exact .inr ⟨hfirst, .untold hrest⟩
  · rintro (htells | ⟨hfirst, hlength⟩)
    · exact @HasLength.told axis [] tokens token length htells nofun
    · cases hlength with
      | @told before after teller _ htells hbefore =>
        have hpassed : ∀ earlier ∈ token :: before, ¬Resolves axis earlier :=
          List.forall_mem_cons.2 ⟨hfirst, hbefore⟩
        exact @HasLength.told axis (token :: before) after teller length htells hpassed
      | untold hsilent => exact .untold (List.forall_mem_cons.2 ⟨hfirst, hsilent⟩)

theorem not_meetsOverlong_nil (axis : Axis) : ¬MeetsOverlong axis [] := by
  rintro ⟨before, token, after, heq, -⟩
  simp at heq

/-- A search ends if it comes to no overlong step, and with the length of the axis. -/
theorem search_eq_ok_iff {axis : Axis} {tokens : List String} {length : Length} :
    (∃ found, search axis none tokens = .ok found ∧ found.getD defaultLength = length) ↔
      ¬MeetsOverlong axis tokens ∧ HasLength axis tokens length := by
  induction tokens with
  | nil =>
    rw [hasLength_nil_iff]
    simp [search, pure, Except.pure, not_meetsOverlong_nil, eq_comm]
  | cons token tokens ih =>
    have hread : lookAt axis none token = tokenLength axis token := rfl
    rw [search_cons, hread, meetsOverlong_cons, hasLength_cons_iff, ← tokenLength_eq_ok_some_iff,
      ← tokenLength_eq_error_iff, Resolves]
    -- a token that cannot be read ends the search, one that tells a length decides it, any other is passed over
    cases tokenLength axis token with
    | error limit => simp [bind, Except.bind]
    | ok told =>
      cases told with
      | some first => simp [bind, Except.bind, search_some]
      | none => simpa [bind, Except.bind] using ih

/-! ## Two searches in one -/

theorem forall_axis {P : Axis → Prop} : (∀ axis, P axis) ↔ P .width ∧ P .height := by
  constructor
  · intro h
    exact ⟨h .width, h .height⟩
  · rintro ⟨hwidth, hheight⟩ axis
    cases axis with
    | width => exact hwidth
    | height => exact hheight

/-- Looking for both lengths in one go comes to the same as looking for each of them. -/
theorem lookAll_eq_ok_iff {e found : Extent} {tokens : List String} : e.lookAll tokens = .ok found ↔
    search .width e.width tokens = .ok found.width ∧ search .height e.height tokens = .ok found.height := by
  induction tokens generalizing e with
  | nil =>
    obtain ⟨width, height⟩ := e
    obtain ⟨width', height'⟩ := found
    simp [Extent.lookAll, search, pure, Except.pure]
  | cons token tokens ih =>
    rw [Extent.lookAll, look_eq, search_cons, search_cons]
    cases hwidth : lookAt .width e.width token with
    | error limit => simp [bind, Except.bind]
    | ok width =>
      cases hheight : lookAt .height e.height token with
      | error limit => simp [bind, Except.bind]
      | ok height =>
        change (if width.isSome && height.isSome then pure ⟨width, height⟩
          else Extent.lookAll ⟨width, height⟩ tokens) = .ok found ↔
            search .width width tokens = .ok found.width ∧ search .height height tokens = .ok found.height
        by_cases hboth : width.isSome && height.isSome
        · -- what is known already is the outcome of both searches, so to stop here makes no difference
          rw [if_pos hboth]
          rw [Bool.and_eq_true, Option.isSome_iff_exists, Option.isSome_iff_exists] at hboth
          obtain ⟨⟨w, rfl⟩, h, rfl⟩ := hboth
          rw [search_some, search_some]
          obtain ⟨width', height'⟩ := found
          simp [pure, Except.pure]
        · rw [if_neg hboth]
          exact ih

/-- The size is found by two searches, one for each axis. -/
theorem iconSize_eq_ok_iff {tokens : List String} {width height : Length} :
    iconSize tokens = .ok (width, height) ↔
      (∃ found, search .width none tokens = .ok found ∧ found.getD defaultLength = width) ∧
        ∃ found, search .height none tokens = .ok found ∧ found.getD defaultLength = height := by
  rw [iconSize, except_bind_eq_ok]
  simp only [lookAll_eq_ok_iff, pure, Except.pure, Except.ok.injEq, Prod.mk.injEq]
  constructor
  · rintro ⟨e, ⟨hwidth, hheight⟩, hw, hh⟩
    exact ⟨⟨e.width, hwidth, hw⟩, e.height, hheight, hh⟩
  · rintro ⟨⟨w, hwidth, hw⟩, h, hheight, hh⟩
    exact ⟨⟨w, h⟩, ⟨hwidth, hheight⟩, hw, hh⟩

/-- The axes of a size are independent. A token tells a length if it has one in brackets or a step of the scale
    that has one. The size is found, and is that of each axis on its own, unless on one of the axes an overlong
    step comes before any token that tells its length, in which case the look-up fails. So what is found depends
    on the tokens of each axis in their order, and not on how they stand among each other and among other tokens;
    all that does depend on it is which step a failure reports if both axes have an overlong one. -/
theorem iconSize_axes (tokens : List String) :
    (∀ axis token, Resolves axis token ↔ ∃ length, Tells axis token length) ∧
      (∀ width height, iconSize tokens = .ok (width, height) ↔ (∀ axis, ¬MeetsOverlong axis tokens) ∧
        HasLength .width tokens width ∧ HasLength .height tokens height) ∧
      ((∃ limit, iconSize tokens = .error limit) ↔ ∃ axis, MeetsOverlong axis tokens) ∧
      ∀ others, (∀ axis, axisTokens axis others = axisTokens axis tokens) →
        ∀ size, iconSize others = .ok size ↔ iconSize tokens = .ok size := by
  refine ⟨fun axis token => resolves_iff, ?found, iconSize_eq_error_iff, ?interleaved⟩
  case found =>
    intro width height
    rw [iconSize_eq_ok_iff, search_eq_ok_iff, search_eq_ok_iff, forall_axis]
    exact and_and_and_comm
  case interleaved =>
    rintro others hothers ⟨width, height⟩
    have hsearch : ∀ axis, search axis none others = search axis none tokens := by
      intro axis
      rw [← search_axisTokens axis none others, hothers axis, search_axisTokens]
    rw [iconSize_eq_ok_iff, iconSize_eq_ok_iff, hsearch, hsearch]

/-- A step without a length is passed over, a length of zero is one, and the tokens that come after it make no
    difference. -/
theorem iconSize_axes_interleaved :
    let tokens := ["w-7", "h-[12.5px]", "flex", "w-[0px]", "h-2", "w-8"]
    let others := ["h-[12.5px]", "h-2", "w-7", "w-[0px]", "w-8"]
    let size : Length × Length := (.ofDecimal 0 0, .ofDecimal 125 (-1))
    (∀ axis, axisTokens axis others = axisTokens axis tokens) ∧ iconSize tokens = .ok size ∧
      HasLength .width tokens size.1 ∧ HasLength .height tokens size.2 ∧ iconSize others = .ok size := by
  intro tokens others size
  have hothers : ∀ axis, axisTokens axis others = axisTokens axis tokens := by
    intro axis
    cases axis with
    | width => decide
    | height => decide
  have hsize : iconSize tokens = .ok size := by decide +kernel
  obtain ⟨-, hfound, -, hinterleaved⟩ := iconSize_axes tokens
  obtain ⟨-, hwidth, hheight⟩ := (hfound size.1 size.2).1 hsize
  exact ⟨hothers, hsize, hwidth, hheight, (hinterleaved others hothers size).2 hsize⟩

end Image
end MarkupCleaner
