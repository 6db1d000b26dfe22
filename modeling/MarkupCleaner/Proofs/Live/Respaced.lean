import MarkupCleaner.Proofs.Live.Cleanup
import MarkupCleaner.Proofs.Live.Places
import MarkupCleaner.Proofs.Text.Gaps

/-!
# Normalising white space in place

A text keeps its white space if some element above it does, however far up. The value of any other text is
collapsed, or empty if it is blank. Nothing else changes, so that just one document is what normalising a
given one comes to.
-/

namespace MarkupCleaner.Live

open LiveNode Cleanup

/-! ## The law -/

/-- What the value of a text becomes: empty if it is blank, and collapsed otherwise. -/
structure IsNormalText (value out : String) : Prop where
  blank : Text.isBlank value = true → out = ""
  written : Text.isBlank value = false → Text.IsCollapsed value.toList out.toList

/-- Whether an element above a place keeps its white space. It stands where a part of the way to the place
    leads to. -/
def IsKeptAt (slots : List LiveNode) (path : Path) : Prop :=
  ∃ front, front <+: path ∧ front ≠ path ∧
    ∃ above tag, find? slots front = some above ∧ above.tag? = some tag ∧ tag ∈ ["pre", "code", "textarea"]

/-- A node before and after normalising. Only the value of a text may be another one, unless it is kept, and
    what is below an element, which is normalised on its own. -/
inductive Respaces (isKept : Prop) : LiveNode → LiveNode → Prop
  | element {link : Link} {tag : String} {attrs : Attributes} {children children' : List LiveNode}
      {ns : Option String} :
      Respaces isKept (.element link tag attrs children ns) (.element link tag attrs children' ns)
  | text {link : Link} {value value' : String} (kept : isKept → value' = value)
      (normal : ¬isKept → IsNormalText value value') :
      Respaces isKept (.text link value) (.text link value')
  | comment {link : Link} {data : String} : Respaces isKept (.comment link data) (.comment link data)

/-- Normal white space: every node is in its place, and only the texts are normalised. -/
def IsRespaced (before after : List LiveNode) : Prop :=
  PlaceByPlace (fun path => Respaces (IsKeptAt before path)) before after

theorem isNormalText_iff {value out : String} : IsNormalText value out ↔ out = normalText value := by
  cases hblank : Text.isBlank value with
  | true =>
    rw [normalText_of_blank hblank]
    constructor
    · intro h
      exact h.blank hblank
    · rintro rfl
      exact ⟨fun _ => rfl, fun hfalse => absurd hblank (ne_true_of_eq_false hfalse)⟩
  | false =>
    rw [normalText_of_not_blank (ne_true_of_eq_false hblank), String.ext_iff, Text.toList_collapsed,
      ← Text.isCollapsed_iff]
    constructor
    · intro h
      exact h.written hblank
    · intro h
      exact ⟨fun htrue => absurd htrue (ne_true_of_eq_false hblank), fun _ => h⟩

theorem Respaces.bare_eq {isKept : Prop} {n m m' : LiveNode} (h : Respaces isKept n m)
    (h' : Respaces isKept n m') : m.bare = m'.bare := by
  cases h with
  | element =>
    cases h'
    rfl
  | @text link value value₁ kept normal =>
    cases h' with
    | @text _ _ value₂ kept' normal' =>
      have hvalue : value₁ = value₂ := by
        by_cases hkept : isKept
        · rw [kept hkept, kept' hkept]
        · rw [isNormalText_iff.1 (normal hkept), isNormalText_iff.1 (normal' hkept)]
      rw [hvalue]
  | comment =>
    cases h'
    rfl

/-- The law settles the document. -/
theorem IsRespaced.unique {before after after' : List LiveNode} (h : IsRespaced before after)
    (h' : IsRespaced before after') : after = after' :=
  eq_of_map_bare_find? fun _ => h.map_bare_eq h' fun _ _ _ hm hm' => hm.bare_eq hm'

/-! ## The pass -/

theorem keepsWhitespace_iff {tag : String} :
    keepsWhitespace tag = true ↔ tag ∈ ["pre", "code", "textarea"] := by
  simp [keepsWhitespace, or_assoc]

/-- An element above a place is its holder or above that. -/
theorem isKeptAt_concat {slots : List LiveNode} {path : Path} {holder : LiveNode} (index : Nat)
    (h : find? slots path = some holder) : IsKeptAt slots (path ++ [index]) ↔
      IsKeptAt slots path ∨ ∃ tag, holder.tag? = some tag ∧ tag ∈ ["pre", "code", "textarea"] := by
  constructor
  · rintro ⟨front, hfront, hne, above, tag, habove, hkeeps⟩
    have hpath : front <+: path := (List.prefix_concat_iff.1 hfront).resolve_left hne
    by_cases hholder : front = path
    · subst hholder
      obtain rfl := Option.some.inj (h.symm.trans habove)
      exact Or.inr ⟨tag, hkeeps⟩
    · exact Or.inl ⟨front, hpath, hholder, above, tag, habove, hkeeps⟩
  · have hlonger : path.length < (path ++ [index]).length := by simp
    rintro (⟨front, hfront, -, hkeeps⟩ | ⟨tag, hkeeps⟩)
    · refine ⟨front, hfront.trans (List.prefix_append _ _), ?_, hkeeps⟩
      rintro rfl
      exact absurd hfront.length_le (Nat.not_le.2 hlonger)
    · refine ⟨path, List.prefix_append _ _, ?_, holder, tag, h, hkeeps⟩
      intro heq
      exact absurd (congrArg List.length heq) (Nat.ne_of_lt hlonger)

theorem not_isKeptAt_singleton (slots : List LiveNode) (index : Nat) : ¬IsKeptAt slots [index] := by
  rintro ⟨front, hfront, hne, above, tag, habove, -⟩
  have hnil : front <+: [] := (List.prefix_concat_iff.1 hfront).resolve_left hne
  rw [List.prefix_nil.1 hnil] at habove
  cases habove

/-- What the pass hands on to a node is whether an element above it keeps its white space. -/
theorem handedTo_whitespaceEdit {slots : List LiveNode} {path : Path} {n : LiveNode}
    (h : find? slots path = some n) :
    whitespaceEdit.handedTo false slots path = true ↔ IsKeptAt slots path := by
  induction path using List.reverseRecOn generalizing n with
  | nil => cases h
  | append_singleton path index ih =>
    rcases eq_nil_or_exists_holder h with rfl | ⟨holder, hholder⟩
    · exact iff_of_false Bool.false_ne_true (not_isKeptAt_singleton slots index)
    · rw [Edit.handedTo_concat hholder, isKeptAt_concat index hholder, ← ih hholder]
      rw [find?_concat hholder] at h
      cases holder with
      | element link tag attrs children ns =>
        show (_ || keepsWhitespace tag) = true ↔ _ ∨ ∃ tag', some tag = some tag' ∧ _
        rw [Bool.or_eq_true, keepsWhitespace_iff]
        simp only [Option.some.injEq, exists_eq_left']
      | text link value => cases h
      | comment link data => cases h

theorem respaces_editNode {isKept : Prop} {kept : Bool} (hkept : kept = true ↔ isKept) (n : LiveNode) :
    Respaces isKept n (editNode whitespaceEdit kept n) := by
  cases n with
  | element link tag attrs children ns => exact .element
  | text link value =>
    refine .text (fun hin => ?_) fun hout => isNormalText_iff.2 ?_
    · rw [text_whitespaceEdit, if_pos (hkept.2 hin)]
    · rw [text_whitespaceEdit, if_neg fun htrue => hout (hkept.1 htrue)]
  | comment link data => exact .comment

theorem isRespaced_editBelow (slots : List LiveNode) :
    IsRespaced slots (editBelow whitespaceEdit false slots) :=
  placeByPlace_editBelow fun _ n hn => respaces_editNode (handedTo_whitespaceEdit hn) n

/-! ## A whole document -/

/-- Normalising the white space of a document in place. Every node keeps its place, its identity and all it
    has, but for the value of a text that no element above it keeps, which becomes normal. No other
    document keeps this law. Normalising a second time changes nothing. -/
theorem normalizeWhitespace_isRespaced (d : LiveDocument) :
    let after := applyPass d.id .normalizeWhitespace d.children
    (∀ out, IsRespaced d.children out ↔ out = after)
      ∧ plainAll after = normalizeWhitespace d.plain
      ∧ applyPass d.id .normalizeWhitespace after = after := by
  intro after
  have hrespaced : IsRespaced d.children after := isRespaced_editBelow d.children
  refine ⟨fun out => ⟨fun h => h.unique hrespaced, ?_⟩,
    plainAll_applyPass d.id .normalizeWhitespace d.children, ?_⟩
  · rintro rfl
    exact hrespaced
  · exact settles_whitespaceEdit.editBelow_editBelow false d.children

/-- Texts inside and outside of elements that keep white space, one of them two levels up. -/
example : normalizeWhitespace
    [.element "p" [] [.text " a\t\nb ", .element "pre" [] [.element "b" [] [.text " \n c"] none] none,
      .text "\u2003"] none] =
    [.element "p" [] [.text " a b ", .element "pre" [] [.element "b" [] [.text " \n c"] none] none,
      .text ""] none] := by
  decide +kernel

end MarkupCleaner.Live
