import Mathlib
import MarkupCleaner.Proofs.Unicode.Lowercase
import MarkupCleaner.Unicode.Caseless

/-!
# Words in any letter case

A caseless comparison does not see whether a letter is a capital. So a text holds a word in some spelling
if and only if it does when its ASCII capitals are made small.
-/

namespace MarkupCleaner.Unicode

/-- A text with its ASCII capitals made small. -/
def asciiLower (cs : List Char) : List Char := cs.map Char.toLower

/-- A text with its small ASCII letters made capitals. -/
def asciiUpper (cs : List Char) : List Char := cs.map Char.toUpper

@[simp] theorem asciiLower_asciiLower (cs : List Char) : asciiLower (asciiLower cs) = asciiLower cs := by
  simp [asciiLower]

@[simp] theorem asciiLower_asciiUpper (cs : List Char) : asciiLower (asciiUpper cs) = asciiLower cs := by
  simp [asciiLower, asciiUpper]

/-- A text without ASCII capitals is as it is in small letters. -/
theorem asciiLower_eq_self {cs : List Char} (h : ∀ c ∈ cs, ¬c.isUpper) : asciiLower cs = cs :=
  (List.map_congr_left fun c hc => Char.toLower_eq_of_not_isUpper (h c hc)).trans (List.map_id cs)

theorem isUpper_iff (c : Char) : c.isUpper ↔ 0x41 ≤ c.toNat ∧ c.toNat ≤ 0x5A := by
  simp [Char.isUpper, UInt32.le_iff_toNat_le, ge_iff_le]

theorem isLower_iff (c : Char) : c.isLower ↔ 0x61 ≤ c.toNat ∧ c.toNat ≤ 0x7A := by
  simp [Char.isLower, UInt32.le_iff_toNat_le, ge_iff_le]

theorem toNat_toLower_of_isUpper {c : Char} (hc : c.isUpper) : c.toLower.toNat = c.toNat + 0x20 := by
  have hcode := (isUpper_iff c).1 hc
  rw [Char.toLower_eq_of_isUpper hc, Char.toNat_ofNat, if_pos]
  exact .inl (by omega)

theorem lowerCode_toLower (c : Char) : lowerCode c.toLower.toNat = lowerCode c.toNat := by
  by_cases hc : c.isUpper
  · have hcode := (isUpper_iff c).1 hc
    rw [toNat_toLower_of_isUpper hc, lowerCode_of_capital hcode, lowerCode_eq_self (by omega)]
    omega
  · rw [Char.toLower_eq_of_not_isUpper hc]

theorem mem_caseClass_self (code : Nat) : code ∈ caseClass code := by
  unfold caseClass
  cases hfind : sharedCapitals.find? fun codes => codes.contains code with
  | none => simp
  | some codes => simpa using List.find?_some hfind

/-- A character is among those that count as the same as itself, so only the classes matter. -/
theorem equalCaseless_eq (c d : Char) :
    equalCaseless c d = (caseClass (lowerCode c.toNat)).contains (lowerCode d.toNat) := by
  unfold equalCaseless
  by_cases h : c = d
  · subst h
    simp [mem_caseClass_self]
  · simp [h]

theorem equalCaseless_self (c : Char) : equalCaseless c c := by simp [equalCaseless]

theorem equalCaseless_toLower (c d : Char) : equalCaseless c d.toLower = equalCaseless c d := by
  rw [equalCaseless_eq, equalCaseless_eq, lowerCode_toLower]

/-- A piece of text is a spelling of a word without regard to case. -/
def Spells (word piece : List Char) : Prop := List.Forall₂ (fun w c => equalCaseless w c) word piece

/-- A text holds a spelling of a word. -/
def HoldsWord (word cs : List Char) : Prop := ∃ piece, piece <:+: cs ∧ Spells word piece

theorem spells_self (word : List Char) : Spells word word :=
  List.forall₂_same.2 fun c _ => equalCaseless_self c

theorem holdsWord_of_stands {word cs : List Char} (h : word <:+: cs) : HoldsWord word cs :=
  ⟨word, h, spells_self word⟩

theorem spells_asciiLower (word piece : List Char) :
    Spells word (asciiLower piece) ↔ Spells word piece := by
  simp only [Spells, asciiLower, List.forall₂_map_right_iff, equalCaseless_toLower]

/-- Whether a text holds a word does not depend on its capitals. -/
theorem holdsWord_asciiLower (word cs : List Char) :
    HoldsWord word (asciiLower cs) ↔ HoldsWord word cs := by
  constructor
  · rintro ⟨piece, hpiece, hspells⟩
    obtain ⟨original, horiginal, rfl⟩ := List.infix_map_iff.1 hpiece
    exact ⟨original, horiginal, (spells_asciiLower word original).1 hspells⟩
  · rintro ⟨piece, hpiece, hspells⟩
    exact ⟨asciiLower piece, hpiece.map Char.toLower, (spells_asciiLower word piece).2 hspells⟩

theorem isSome_afterCaseless?_iff (word cs : List Char) :
    (afterCaseless? word cs).isSome ↔ ∃ piece, piece <+: cs ∧ Spells word piece := by
  induction word generalizing cs with
  | nil => exact iff_of_true rfl ⟨[], List.nil_prefix, .nil⟩
  | cons w word ih =>
    cases cs with
    | nil => simp [afterCaseless?, Spells]
    | cons c cs =>
      rw [afterCaseless?]
      split
      · next hw =>
        rw [ih]
        constructor
        · rintro ⟨piece, hpiece, hspells⟩
          exact ⟨c :: piece, List.cons_prefix_cons.2 ⟨rfl, hpiece⟩, .cons hw hspells⟩
        · rintro ⟨_, hpiece, hspells⟩
          cases hspells with
          | cons _ hspells => exact ⟨_, (List.cons_prefix_cons.1 hpiece).2, hspells⟩
      · next hw =>
        refine iff_of_false (by simp) ?_
        rintro ⟨_, hpiece, hspells⟩
        cases hspells with
        | cons hd _ => exact hw ((List.cons_prefix_cons.1 hpiece).1 ▸ hd)

end MarkupCleaner.Unicode
