import Mathlib.Tactic.Common
import MarkupCleaner.Text.Blank
import MarkupCleaner.Unicode.Lowercase

/-!
# Texts in lower case

A text whose characters are their own lower-case letters is its own lower-case form, and a lower-case
form is such a text. So lower-casing twice is lower-casing once.
-/

namespace MarkupCleaner.Unicode

/-- A character that the lower-case form of a text keeps wherever it stands. -/
def IsLower (c : Char) : Prop := c ≠ 'İ' ∧ c ≠ 'Σ' ∧ simpleLower c = c

instance (c : Char) : Decidable (IsLower c) := inferInstanceAs (Decidable (_ ∧ _ ∧ _))

theorem lowerAfter_eq_self {cs : List Char} (h : ∀ c ∈ cs, IsLower c) (before : List Char) :
    lowerAfter before cs = cs := by
  induction cs generalizing before with
  | nil => rfl
  | cons c cs ih =>
    obtain ⟨hdotted, hsigma, hlower⟩ := h c List.mem_cons_self
    rw [lowerAfter, lowerAt, if_neg hdotted, if_neg hsigma, hlower,
      ih fun d hd => h d (List.mem_cons_of_mem c hd)]
    rfl

theorem lower_eq_self {cs : List Char} (h : ∀ c ∈ cs, IsLower c) : lower cs = cs :=
  lowerAfter_eq_self h []

/-- Below the accented letters, the table lists the ASCII capitals only. -/
theorem lowerCode_eq_self {code : Nat} (h : code < 0x41 ∨ 0x5A < code ∧ code < 0xC0) :
    lowerCode code = code := by
  have hruns : lowercaseRuns
      = (0x41, 0x5A, 1, 0x61) :: (0xC0, 0xD6, 1, 0xE0) :: lowercaseRuns.drop 2 := rfl
  rw [lowerCode, hruns, mappedCode, mappedCode]
  rcases h with h | ⟨h₁, h₂⟩
  · rw [if_pos h]
  · rw [if_neg (by omega), if_neg (by simp; omega), if_pos h₂]

theorem lowerCode_of_capital {code : Nat} (h : 0x41 ≤ code ∧ code ≤ 0x5A) :
    lowerCode code = 0x61 + (code - 0x41) := by
  have hruns : lowercaseRuns = (0x41, 0x5A, 1, 0x61) :: lowercaseRuns.drop 1 := rfl
  rw [lowerCode, hruns, mappedCode, if_neg (by omega), if_pos (by simp; omega)]

/-! ## The images of the table

No image of the table is itself listed in it. The code points are compared as bits of two large
numbers: looking every image up in the table would take the kernel far longer.
-/

/-- The number whose bits `0, step, 2 * step, …` are set, as many as told. -/
def stepBits (step : Nat) : Nat → Nat
  | 0 => 0
  | count + 1 => 1 ||| stepBits step count <<< step

theorem testBit_stepBits {step count k : Nat} (h : k < count) :
    (stepBits step count).testBit (k * step) = true := by
  induction count generalizing k with
  | zero => omega
  | succ count ih =>
    rw [stepBits, Nat.testBit_or, Nat.testBit_shiftLeft]
    cases k with
    | zero => simp
    | succ k =>
      have hge : (k + 1) * step ≥ step := Nat.le_mul_of_pos_left step (Nat.succ_pos k)
      have hsub : (k + 1) * step - step = k * step := by rw [Nat.succ_mul, Nat.add_sub_cancel]
      rw [hsub, ih (by omega)]
      simp [hge]

namespace CaseRun

/-- The bits of a run that starts at `base` instead of its first code point. -/
def bitsAt (run : CaseRun) (base : Nat) : Nat :=
  let (first, last, step, _) := run
  stepBits step ((last - first) / step + 1) <<< base

/-- The bits of the code points that a run lists. -/
def sourceBits (run : CaseRun) : Nat := run.bitsAt run.1

/-- The bits of the code points that a run maps to. -/
def imageBits (run : CaseRun) : Nat := run.bitsAt run.2.2.2

/-- All images of a run are characters. -/
def hasValidImages (run : CaseRun) : Bool :=
  let (first, last, _, image) := run
  Nat.blt (image + (last - first)) 0xD800
    || Nat.blt 0xDFFF image && Nat.blt (image + (last - first)) 0x110000

/-- Whether a run says what becomes of a code point. -/
def applies (run : CaseRun) (code : Nat) : Prop :=
  run.1 ≤ code ∧ code ≤ run.2.1 ∧ (code - run.1) % run.2.2.1 = 0

theorem testBit_bitsAt {run : CaseRun} {code : Nat} (h : run.applies code) (base : Nat) :
    (run.bitsAt base).testBit (base + (code - run.1)) = true := by
  obtain ⟨first, last, step, image⟩ := run
  obtain ⟨hfirst, hlast, hstep⟩ := h
  dsimp only at hfirst hlast hstep
  have hk : (code - first) / step * step = code - first :=
    Nat.div_mul_cancel (Nat.dvd_of_mod_eq_zero hstep)
  have hlt : (code - first) / step < (last - first) / step + 1 :=
    Nat.lt_succ_of_le (Nat.div_le_div_right (by omega))
  rw [bitsAt, Nat.testBit_shiftLeft, Nat.add_sub_cancel_left]
  dsimp only
  rw [← hk, testBit_stepBits hlt]
  simp

end CaseRun

/-- The union of the bits of several runs. -/
def unionBits (bits : CaseRun → Nat) (runs : List CaseRun) : Nat :=
  runs.foldr (fun run union => bits run ||| union) 0

theorem testBit_unionBits {bits : CaseRun → Nat} {runs : List CaseRun} {run : CaseRun} {i : Nat}
    (hrun : run ∈ runs) (h : (bits run).testBit i = true) :
    (unionBits bits runs).testBit i = true := by
  induction runs with
  | nil => cases hrun
  | cons other runs ih =>
    rw [unionBits, List.foldr_cons, Nat.testBit_or]
    rcases List.mem_cons.1 hrun with rfl | hrun
    · simp [h]
    · have := ih hrun
      rw [unionBits] at this
      simp [this]

theorem images_not_listed :
    unionBits CaseRun.sourceBits lowercaseRuns &&& unionBits CaseRun.imageBits lowercaseRuns = 0 := by
  decide +kernel

theorem images_valid : lowercaseRuns.all CaseRun.hasValidImages = true := by
  decide +kernel

/-- A table keeps a code point or maps it as one of its runs says. -/
theorem mappedCode_cases (code : Nat) (runs : List CaseRun) :
    mappedCode code runs = code ∨
      ∃ run ∈ runs, run.applies code ∧ mappedCode code runs = run.2.2.2 + (code - run.1) := by
  induction runs with
  | nil => exact Or.inl rfl
  | cons run runs ih =>
    obtain ⟨first, last, step, image⟩ := run
    rw [mappedCode]
    split_ifs with hlt hin
    · exact Or.inl rfl
    · simp only [Bool.and_eq_true, decide_eq_true_eq, beq_iff_eq] at hin
      exact Or.inr ⟨_, List.mem_cons_self, ⟨by dsimp only; omega, hin⟩, rfl⟩
    · rcases ih with hself | ⟨run, hrun, himage⟩
      · exact Or.inl hself
      · exact Or.inr ⟨run, List.mem_cons_of_mem _ hrun, himage⟩

/-- An image of the table is a character, and the table keeps it. -/
theorem lowerCode_image {run : CaseRun} (hrun : run ∈ lowercaseRuns) {code : Nat}
    (h : run.applies code) :
    (run.2.2.2 + (code - run.1)).isValidChar ∧
      lowerCode (run.2.2.2 + (code - run.1)) = run.2.2.2 + (code - run.1) := by
  constructor
  · have hvalid := List.all_eq_true.1 images_valid run hrun
    obtain ⟨first, last, step, image⟩ := run
    obtain ⟨hfirst, hlast, -⟩ := h
    simp only [CaseRun.hasValidImages, Nat.blt_eq, Bool.or_eq_true, Bool.and_eq_true] at hvalid
    dsimp only at hfirst hlast ⊢
    rcases hvalid with hlow | hhigh
    · exact Or.inl (by omega)
    · exact Or.inr ⟨by omega, by omega⟩
  · rcases mappedCode_cases (run.2.2.2 + (code - run.1)) lowercaseRuns with hself | hlisted
    · exact hself
    · obtain ⟨other, hother, happlies, -⟩ := hlisted
      have himage : (unionBits CaseRun.imageBits lowercaseRuns).testBit
          (run.2.2.2 + (code - run.1)) = true :=
        testBit_unionBits hrun (CaseRun.testBit_bitsAt h run.2.2.2)
      have hsource : (unionBits CaseRun.sourceBits lowercaseRuns).testBit
          (run.2.2.2 + (code - run.1)) = true := by
        refine testBit_unionBits hother ?_
        have hbit := CaseRun.testBit_bitsAt happlies other.1
        rwa [Nat.add_sub_cancel' happlies.1] at hbit
      have hboth := congrArg (Nat.testBit · (run.2.2.2 + (code - run.1))) images_not_listed
      simp [Nat.testBit_and, himage, hsource] at hboth

theorem simpleLower_simpleLower (c : Char) : simpleLower (simpleLower c) = simpleLower c := by
  rcases mappedCode_cases c.toNat lowercaseRuns with hself | ⟨run, hrun, happlies, himage⟩
  · have hc : simpleLower c = c := by rw [simpleLower, lowerCode, hself, Char.ofNat_toNat]
    rw [hc, hc]
  · obtain ⟨hvalid, hkept⟩ := lowerCode_image hrun happlies
    rw [← himage] at hvalid hkept
    have hcode : (simpleLower c).toNat = lowerCode c.toNat := by
      rw [simpleLower, lowerCode, Char.ofNat, dif_pos hvalid]
      rfl
    rw [simpleLower, hcode]
    exact congrArg Char.ofNat hkept

theorem isLower_simpleLower (c : Char) : IsLower (simpleLower c) := by
  refine ⟨?_, ?_, simpleLower_simpleLower c⟩
  · intro h
    have := simpleLower_simpleLower c
    rw [h] at this
    exact absurd this (by decide)
  · intro h
    have := simpleLower_simpleLower c
    rw [h] at this
    exact absurd this (by decide)

/-- Every character of a lower-case form is its own lower-case letter. -/
theorem isLower_of_mem_lower {cs : List Char} {c : Char} (h : c ∈ lower cs) : IsLower c := by
  have hat : ∀ before d after, c ∈ lowerAt before d after → IsLower c := by
    intro before d after hc
    unfold lowerAt at hc
    split_ifs at hc with hdotted hsigma hfinal
    · rcases List.mem_cons.1 hc with rfl | hc
      · decide
      · rw [List.mem_singleton.1 hc]
        decide
    · rw [List.mem_singleton.1 hc]
      decide
    · rw [List.mem_singleton.1 hc]
      decide
    · rw [List.mem_singleton.1 hc]
      exact isLower_simpleLower d
  have hafter : ∀ ds before, c ∈ lowerAfter before ds → IsLower c := by
    intro ds
    induction ds with
    | nil =>
      intro before hc
      cases hc
    | cons d ds ih =>
      intro before hc
      rcases List.mem_append.1 hc with hc | hc
      · exact hat before d ds hc
      · exact ih (d :: before) hc
  exact hafter cs [] h

theorem lower_lower (cs : List Char) : lower (lower cs) = lower cs :=
  lower_eq_self fun _ => isLower_of_mem_lower

/-! ## Which characters a lower-case form has

Lower-casing makes letters and no separators: what is not there before comes after all of ASCII but the
small letters, and is no white space.
-/

/-- A character that lower-casing may put in place of another one. -/
def IsLowerImage (c : Char) : Prop := 0x61 ≤ c.toNat ∧ Text.isBlankChar c = false

instance (c : Char) : Decidable (IsLowerImage c) := inferInstanceAs (Decidable (_ ∧ _))

/-- The code points of white space beyond the capital letters. -/
def laterBlanks : List Nat :=
  [0x85, 0xA0, 0x1680, 0x2000, 0x2001, 0x2002, 0x2003, 0x2004, 0x2005, 0x2006, 0x2007, 0x2008, 0x2009,
   0x200A, 0x2028, 0x2029, 0x202F, 0x205F, 0x3000]

theorem isBlankChar_eq_false_of_notMem {c : Char} (hcode : 0x61 ≤ c.toNat) (h : c.toNat ∉ laterBlanks) :
    Text.isBlankChar c = false := by
  rw [← Bool.not_eq_true]
  intro hblank
  apply h
  simp only [Text.isBlankChar, Bool.or_eq_true, Bool.and_eq_true, decide_eq_true_eq, beq_iff_eq] at hblank
  simp only [laterBlanks, List.mem_cons, List.not_mem_nil, or_false]
  omega

/-- No image of a run is white space or a character of ASCII before the small letters. -/
def CaseRun.hasLowerImages (run : CaseRun) : Bool :=
  let (first, last, _, image) := run
  Nat.ble 0x61 image &&
    laterBlanks.all fun blank => Nat.blt blank image || Nat.blt (image + (last - first)) blank

theorem images_lower : lowercaseRuns.all CaseRun.hasLowerImages = true := by
  decide +kernel

/-- The simple lower-case letter of a character is the character itself, or a letter. -/
theorem simpleLower_cases (c : Char) : simpleLower c = c ∨ IsLowerImage (simpleLower c) := by
  rcases mappedCode_cases c.toNat lowercaseRuns with hself | ⟨run, hrun, happlies, himage⟩
  · exact Or.inl (by rw [simpleLower, lowerCode, hself, Char.ofNat_toNat])
  · obtain ⟨hvalid, -⟩ := lowerCode_image hrun happlies
    have hcode : (simpleLower c).toNat = run.2.2.2 + (c.toNat - run.1) := by
      rw [← himage] at hvalid ⊢
      rw [simpleLower, lowerCode, Char.ofNat, dif_pos hvalid]
      rfl
    have hlower := List.all_eq_true.1 images_lower run hrun
    obtain ⟨first, last, step, image⟩ := run
    obtain ⟨hfirst, hlast, -⟩ := happlies
    simp only [CaseRun.hasLowerImages, Bool.and_eq_true, Nat.ble_eq, List.all_eq_true, Bool.or_eq_true,
      Nat.blt_eq] at hlower
    dsimp only at hfirst hlast hcode
    have hge : 0x61 ≤ (simpleLower c).toNat := by omega
    refine Or.inr ⟨hge, isBlankChar_eq_false_of_notMem hge fun hmem => ?_⟩
    have := hlower.2 _ hmem
    omega

/-- What a character becomes: one character that is itself or a letter, and letters. -/
theorem exists_lowerAt (before : List Char) (c : Char) (after : List Char) : ∃ d ds,
    lowerAt before c after = d :: ds ∧ (d = c ∨ IsLowerImage d) ∧ ∀ e ∈ ds, IsLowerImage e := by
  unfold lowerAt
  split_ifs
  · exact ⟨_, _, rfl, Or.inr (by decide), List.forall_mem_singleton.2 (by decide)⟩
  · exact ⟨_, _, rfl, Or.inr (by decide), List.forall_mem_nil _⟩
  · exact ⟨_, _, rfl, Or.inr (by decide), List.forall_mem_nil _⟩
  · exact ⟨_, _, rfl, simpleLower_cases c, List.forall_mem_nil _⟩

/-- A character of a lower-case form is one of the text, or a letter. -/
theorem mem_lowerAfter {before cs : List Char} {c : Char} (h : c ∈ lowerAfter before cs) :
    c ∈ cs ∨ IsLowerImage c := by
  induction cs generalizing before with
  | nil => cases h
  | cons d cs ih =>
    obtain ⟨e, es, hat, he, hes⟩ := exists_lowerAt before d cs
    rw [lowerAfter, hat] at h
    rcases List.mem_append.1 h with h | h
    · rcases List.mem_cons.1 h with rfl | h
      · rcases he with rfl | he
        · exact Or.inl List.mem_cons_self
        · exact Or.inr he
      · exact Or.inr (hes c h)
    · exact (ih h).imp_left (List.mem_cons_of_mem d)

/-- The lower-case form of a text starts with the first character or a letter. -/
theorem exists_lower_cons (c : Char) (cs : List Char) : ∃ d ds, lower (c :: cs) = d :: ds ∧
    (d = c ∨ IsLowerImage d) ∧ ∀ e ∈ ds, e ∈ cs ∨ IsLowerImage e := by
  obtain ⟨d, ds, hat, hd, hds⟩ := exists_lowerAt [] c cs
  refine ⟨d, ds ++ lowerAfter [c] cs, ?_, hd, fun e he => ?_⟩
  · rw [lower, lowerAfter, hat]
    rfl
  · rcases List.mem_append.1 he with he | he
    · exact Or.inr (hds e he)
    · exact mem_lowerAfter he

end MarkupCleaner.Unicode
