import MarkupCleaner.Image.Replace
import MarkupCleaner.Proofs.Image.Sizes
import MarkupCleaner.Proofs.Tree.Occurrences

/-!
# Icons that cannot be replaced

Replacing images fails exactly if an icon that is in no other icon has a size that cannot be read. An icon
inside another is never looked at, since the outer one is replaced with everything in it.
-/

namespace MarkupCleaner.Image

open Node

/-- Whether a node is an icon. -/
def isIconNode : Node → Bool
  | .element tag attrs children _ => isIcon tag attrs children
  | .text _ => false
  | .comment _ => false

/-- An icon that is in no other icon. -/
structure IsOutermostIcon (o : Occurrence) : Prop where
  icon : isIconNode o.node = true
  outermost : ∀ n ∈ o.around, isIconNode n = false

/-- An element whose class tokens have, for one of the axes, an overlong step before any token that tells
    the length. -/
def HasOverlongSize : Node → Prop
  | .element _ attrs _ _ => ∃ axis, MeetsOverlong axis attrs.classTokens
  | .text _ => False
  | .comment _ => False

/-- Whether a node is replaced with everything in it. -/
def detects (options : ImageOptions) (n : Node) : Bool := options.icons && isIconNode n

/-- A node that is replaced, is in no other such node, and has a size that cannot be read. -/
def Blocks (options : ImageOptions) (o : Occurrence) : Prop :=
  (detects options o.node = true ∧ ∀ n ∈ o.around, detects options n = false) ∧ HasOverlongSize o.node

theorem iconImage_eq_error_iff {attrs : Attributes} {ns : Option String} :
    (∃ limit, iconImage attrs ns = .error limit) ↔ ∃ axis, MeetsOverlong axis attrs.classTokens := by
  have hattrs : (∃ limit, iconImage attrs ns = .error limit) ↔
      ∃ limit, iconAttributes attrs = .error limit := exists_map_eq_error
  have hsize : (∃ limit, iconAttributes attrs = .error limit) ↔
      ∃ limit, iconSize attrs.classTokens = .error limit := exists_map_eq_error
  rw [hattrs, hsize, iconSize_eq_error_iff]

section

variable {options : ImageOptions} {around : List Node} {tag : String} {attrs : Attributes}
  {children : List Node} {ns : Option String}

theorem replaceNode_of_detects (h : detects options (.element tag attrs children ns) = true) :
    replaceNode options (.element tag attrs children ns) = iconImage attrs ns := by
  rw [replaceNode]
  exact if_pos h

/-- Nothing in a node that is replaced is looked at. -/
theorem exists_blocks_of_detects (h : detects options (.element tag attrs children ns) = true)
    (hfree : ∀ n ∈ around, detects options n = false) :
    (∃ o ∈ occurrences around (.element tag attrs children ns), Blocks options o) ↔
      ∃ axis, MeetsOverlong axis attrs.classTokens := by
  rw [occurrences]
  constructor
  · rintro ⟨o, ho, ⟨-, hout⟩, hsize⟩
    rcases List.mem_cons.1 ho with rfl | hbelow
    · exact hsize
    · -- whatever is below has this icon around it
      have hsuffix := around_suffix_of_mem_occurrencesAll hbelow
      have hself := hout _ (hsuffix.subset List.mem_cons_self)
      rw [h] at hself
      cases hself
  · intro hsize
    exact ⟨_, List.mem_cons_self, ⟨h, hfree⟩, hsize⟩

theorem replaceNode_eq_error_iff_of_not_detects
    (h : detects options (.element tag attrs children ns) = false) :
    (∃ limit, replaceNode options (.element tag attrs children ns) = .error limit) ↔
      ∃ limit, replaceBelow options children = .error limit := by
  have hnot : ¬(options.icons && isIcon tag attrs children) = true := by
    intro hdetects
    have htrue : detects options (.element tag attrs children ns) = true := hdetects
    rw [h] at htrue
    cases htrue
  rw [replaceNode, if_neg hnot, exists_bind_eq_error, or_iff_left]
  rintro ⟨replaced, -, limit, herror⟩
  split at herror
  · cases herror
  · cases herror

theorem exists_blocks_of_not_detects (h : detects options (.element tag attrs children ns) = false) :
    (∃ o ∈ occurrences around (.element tag attrs children ns), Blocks options o) ↔
      ∃ o ∈ occurrencesAll (.element tag attrs children ns :: around) children, Blocks options o := by
  have hself : ¬Blocks options ⟨around, .element tag attrs children ns⟩ := by
    rintro ⟨⟨hdetects, -⟩, -⟩
    rw [h] at hdetects
    cases hdetects
  simp only [occurrences, List.mem_cons, or_and_right, exists_or, exists_eq_left]
  rw [or_iff_right hself]

end

mutual

theorem replaceNode_eq_error_iff {options : ImageOptions} {around : List Node}
    (hfree : ∀ n ∈ around, detects options n = false) : ∀ n : Node,
    (∃ limit, replaceNode options n = .error limit) ↔ ∃ o ∈ occurrences around n, Blocks options o
  | .element tag attrs children ns => by
    cases h : detects options (.element tag attrs children ns) with
    | true =>
      rw [replaceNode_of_detects h, iconImage_eq_error_iff, exists_blocks_of_detects h hfree]
    | false =>
      rw [replaceNode_eq_error_iff_of_not_detects h, exists_blocks_of_not_detects h]
      exact replaceBelow_eq_error_iff (List.forall_mem_cons.2 ⟨h, hfree⟩) children
  | .text value => by
    refine iff_of_false (fun ⟨limit, h⟩ => nomatch h) ?_
    rintro ⟨o, ho, -, hsize⟩
    obtain rfl := List.mem_singleton.1 ho
    exact hsize
  | .comment data => by
    refine iff_of_false (fun ⟨limit, h⟩ => nomatch h) ?_
    rintro ⟨o, ho, -, hsize⟩
    obtain rfl := List.mem_singleton.1 ho
    exact hsize

theorem replaceBelow_eq_error_iff {options : ImageOptions} {around : List Node}
    (hfree : ∀ n ∈ around, detects options n = false) : ∀ ns : List Node,
    (∃ limit, replaceBelow options ns = .error limit) ↔ ∃ o ∈ occurrencesAll around ns, Blocks options o
  | [] => iff_of_false (fun ⟨limit, h⟩ => nomatch h) (fun ⟨o, ho, _⟩ => nomatch ho)
  | n :: ns => by
    have hrest : ∀ first, (∃ limit, (do
        let rest ← replaceBelow options ns
        return first :: rest : Except Number.DigitLimit (List Node)) = .error limit) ↔
          ∃ limit, replaceBelow options ns = .error limit :=
      fun first => exists_map_eq_error
    have hsplit : (∃ o ∈ occurrencesAll around (n :: ns), Blocks options o) ↔
        (∃ o ∈ occurrences around n, Blocks options o) ∨
          ∃ o ∈ occurrencesAll around ns, Blocks options o := by
      rw [occurrencesAll]
      simp only [List.mem_append, or_and_right, exists_or]
    rw [replaceBelow, exists_bind_eq_error, hsplit, ← replaceNode_eq_error_iff hfree n,
      ← replaceBelow_eq_error_iff hfree ns]
    simp only [hrest]
    cases replaceNode options n with
    | error limit => simp
    | ok first => simp

end

/-- Replacing images fails exactly if icons are replaced and an icon that is in no other icon has a size
    that cannot be read. -/
theorem replaceImages_eq_error_iff {options : ImageOptions} {t : Fragment} :
    (∃ limit, replaceImages options t = .error limit) ↔ options.icons = true ∧
      ∃ o ∈ occurrencesAll [] t, IsOutermostIcon o ∧ HasOverlongSize o.node := by
  rw [replaceImages, replaceBelow_eq_error_iff (List.forall_mem_nil _)]
  unfold Blocks detects
  cases options.icons with
  | false => simp
  | true =>
    simp only [Bool.true_and, true_and]
    constructor
    · rintro ⟨o, ho, ⟨hicon, hout⟩, hsize⟩
      exact ⟨o, ho, ⟨hicon, hout⟩, hsize⟩
    · rintro ⟨o, ho, ⟨hicon, hout⟩, hsize⟩
      exact ⟨o, ho, ⟨hicon, hout⟩, hsize⟩

end MarkupCleaner.Image
