import MarkupCleaner.Image.Size
import MarkupCleaner.Proofs.Data.Except

/-!
# Sizes that cannot be read

Looking up the size of an icon fails exactly if on one of the axes a scale step with too many digits comes
before the first token that tells a length. Neither the other axis nor what comes after both lengths are
known makes a difference.
-/

namespace MarkupCleaner

theorem Text.after?_eq_some_iff {lead cs rest : List Char} :
    Text.after? lead cs = some rest ↔ cs = lead ++ rest := by
  induction lead generalizing cs with
  | nil =>
    rw [Text.after?, Option.some.injEq]
    rfl
  | cons l lead ih =>
    cases cs with
    | nil => simp [Text.after?]
    | cons c cs =>
      by_cases hl : l = c
      · subst hl
        simp [Text.after?, ih]
      · simp [Text.after?, hl, Ne.symm hl]

theorem Number.exists_whole_eq_error_iff {cs : List Char} :
    (∃ limit, Number.whole cs = .error limit) ↔ Number.maxDigits < cs.length := by
  simp [Number.whole_eq_error_iff]

namespace Image

/-- A scale step of an axis with more digits than a whole number may have. -/
def IsOverlong (axis : Axis) (token : String) : Prop :=
  ∃ digits, token.toList = axis.lead ++ digits ∧ isStep digits = true ∧ Number.maxDigits < digits.length

/-- A token that tells the length of an axis. -/
def Resolves (axis : Axis) (token : String) : Prop := ∃ length, tokenLength axis token = .ok (some length)

/-- An overlong step of an axis comes before any token that tells its length. -/
def MeetsOverlong (axis : Axis) (tokens : List String) : Prop :=
  ∃ before token after, tokens = before ++ token :: after ∧ IsOverlong axis token ∧
    ∀ earlier ∈ before, ¬Resolves axis earlier

/-! ## One token -/

theorem bracketLength?_of_isStep {cs : List Char} (h : isStep cs = true) : bracketLength? cs = none := by
  cases cs with
  | nil => rfl
  | cons c cs =>
    have hc : Unicode.isDecimal c = true := by
      simp only [isStep, List.all_cons, Bool.and_eq_true] at h
      exact h.2.1
    have hbracket : Unicode.isDecimal '[' = false := by decide +kernel
    have hne : c ≠ '[' := by
      rintro rfl
      rw [hbracket] at hc
      cases hc
    unfold bracketLength?
    split
    · next heq => exact absurd (List.cons.inj heq).1 hne
    · rfl

/-- Reading a token fails exactly if it is an overlong step of the axis. -/
theorem tokenLength_eq_error_iff {axis : Axis} {token : String} :
    (∃ limit, tokenLength axis token = .error limit) ↔ IsOverlong axis token := by
  unfold tokenLength IsOverlong
  cases hafter : Text.after? axis.lead token.toList with
  | none =>
    constructor
    · rintro ⟨limit, h⟩
      cases h
    · rintro ⟨digits, heq, -⟩
      rw [Text.after?_eq_some_iff.2 heq] at hafter
      cases hafter
  | some rest =>
    have hlist := Text.after?_eq_some_iff.1 hafter
    have hdigits : ∀ digits, token.toList = axis.lead ++ digits ↔ rest = digits := by
      intro digits
      rw [hlist, List.append_cancel_left_eq]
    simp only [hdigits, exists_eq_left']
    -- digits are no length in brackets, so a step is always read as a number
    by_cases hstep : isStep rest = true
    · simp only [bracketLength?_of_isStep hstep, hstep, if_true, true_and,
        ← Number.exists_whole_eq_error_iff]
      exact exists_map_eq_error
    · cases bracketLength? rest with
      | none => simp [hstep]
      | some length => simp [hstep]

theorem meetsOverlong_cons {axis : Axis} {token : String} {tokens : List String} :
    MeetsOverlong axis (token :: tokens) ↔
      IsOverlong axis token ∨ ¬Resolves axis token ∧ MeetsOverlong axis tokens := by
  constructor
  · rintro ⟨before, overlong, after, heq, hoverlong, hbefore⟩
    cases before with
    | nil =>
      obtain ⟨rfl, rfl⟩ := List.cons.inj heq
      exact Or.inl hoverlong
    | cons first before =>
      obtain ⟨rfl, rfl⟩ := List.cons.inj heq
      obtain ⟨hfirst, hrest⟩ := List.forall_mem_cons.1 hbefore
      exact Or.inr ⟨hfirst, before, overlong, after, rfl, hoverlong, hrest⟩
  · rintro (hoverlong | ⟨hfirst, before, overlong, after, rfl, hoverlong, hbefore⟩)
    · exact ⟨[], token, tokens, rfl, hoverlong, nofun⟩
    · exact ⟨token :: before, overlong, after, rfl, hoverlong, List.forall_mem_cons.2 ⟨hfirst, hbefore⟩⟩

/-! ## One axis -/

/-- What is known of an axis after one more token. -/
def lookAt (axis : Axis) (known : Option Length) (token : String) :
    Except Number.DigitLimit (Option Length) :=
  if known.isSome then pure known else tokenLength axis token

/-- An axis whose length is not known and will not be found out. -/
def Fails (axis : Axis) (known : Option Length) (tokens : List String) : Prop :=
  known = none ∧ MeetsOverlong axis tokens

section

variable {axis : Axis} {known : Option Length} {token : String}

theorem fails_of_lookAt_eq_error {limit : Number.DigitLimit} (h : lookAt axis known token = .error limit)
    (tokens : List String) : Fails axis known (token :: tokens) := by
  cases known with
  | some length => cases h
  | none =>
    have hoverlong : IsOverlong axis token := tokenLength_eq_error_iff.1 ⟨limit, h⟩
    exact ⟨rfl, meetsOverlong_cons.2 (Or.inl hoverlong)⟩

theorem fails_cons_iff {next : Option Length} (h : lookAt axis known token = .ok next)
    (tokens : List String) : Fails axis known (token :: tokens) ↔ Fails axis next tokens := by
  cases known with
  | some length =>
    obtain rfl := Except.ok.inj h
    exact iff_of_false (fun hfails => nomatch hfails.1) (fun hfails => nomatch hfails.1)
  | none =>
    have hread : tokenLength axis token = .ok next := h
    have hnot : ¬IsOverlong axis token := by
      intro hoverlong
      obtain ⟨limit, herror⟩ := tokenLength_eq_error_iff.2 hoverlong
      rw [hread] at herror
      cases herror
    have hresolves : Resolves axis token ↔ next ≠ none := by
      unfold Resolves
      rw [hread, Option.ne_none_iff_exists']
      simp only [Except.ok.injEq]
    unfold Fails
    rw [meetsOverlong_cons, hresolves]
    simp [hnot]

end

/-! ## Both axes -/

theorem look_eq (e : Extent) (token : String) : e.look token = (do
    let width ← lookAt .width e.width token
    let height ← lookAt .height e.height token
    return ⟨width, height⟩) := by
  obtain ⟨width, height⟩ := e
  cases width <;> cases height <;> rfl

/-- The look-up fails exactly if it does on one of the axes, each on its own. -/
theorem lookAll_eq_error_iff {e : Extent} {tokens : List String} :
    (∃ limit, e.lookAll tokens = .error limit) ↔
      Fails .width e.width tokens ∨ Fails .height e.height tokens := by
  induction tokens generalizing e with
  | nil =>
    refine iff_of_false (fun ⟨limit, h⟩ => nomatch h) ?_
    rintro (⟨-, before, token, after, heq, -⟩ | ⟨-, before, token, after, heq, -⟩)
    · exact absurd heq (by simp)
    · exact absurd heq (by simp)
  | cons token tokens ih =>
    rw [Extent.lookAll, look_eq]
    cases hwidth : lookAt .width e.width token with
    | error limit => exact iff_of_true ⟨limit, rfl⟩ (Or.inl (fails_of_lookAt_eq_error hwidth tokens))
    | ok width =>
      cases hheight : lookAt .height e.height token with
      | error limit => exact iff_of_true ⟨limit, rfl⟩ (Or.inr (fails_of_lookAt_eq_error hheight tokens))
      | ok height =>
        rw [fails_cons_iff hwidth, fails_cons_iff hheight]
        change (∃ limit, (if width.isSome && height.isSome then pure ⟨width, height⟩
          else Extent.lookAll ⟨width, height⟩ tokens) = .error limit) ↔ _
        -- once both lengths are known neither axis can fail, so to stop there makes no difference
        by_cases hboth : width.isSome && height.isSome
        · rw [if_pos hboth]
          simp only [Bool.and_eq_true, Option.isSome_iff_ne_none] at hboth
          refine iff_of_false (fun ⟨limit, h⟩ => nomatch h) ?_
          rintro (⟨hnone, -⟩ | ⟨hnone, -⟩)
          · exact hboth.1 hnone
          · exact hboth.2 hnone
        · rw [if_neg hboth]
          exact ih

theorem iconSize_eq_error_iff {tokens : List String} :
    (∃ limit, iconSize tokens = .error limit) ↔ ∃ axis, MeetsOverlong axis tokens := by
  have hsize : (∃ limit, iconSize tokens = .error limit) ↔
      ∃ limit, Extent.lookAll {} tokens = .error limit := exists_map_eq_error
  rw [hsize, lookAll_eq_error_iff]
  constructor
  · rintro (⟨-, hwidth⟩ | ⟨-, hheight⟩)
    · exact ⟨.width, hwidth⟩
    · exact ⟨.height, hheight⟩
  · rintro ⟨axis, hmeets⟩
    cases axis with
    | width => exact Or.inl ⟨rfl, hmeets⟩
    | height => exact Or.inr ⟨rfl, hmeets⟩

end Image
end MarkupCleaner
