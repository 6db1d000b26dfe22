import Mathlib.Data.List.Chain
import MarkupCleaner.Proofs.Text.Collapse
import MarkupCleaner.Proofs.Text.Words

/-!
# Gaps

The white space of a text fills the gaps before, between and after its other characters. A text is told by
these characters and by what fills the gaps. Collapsing keeps the characters and leaves every gap that is
empty so; any other gap is filled by a single space then.
-/

namespace MarkupCleaner.Text

/-- Whether a character is not white space. -/
def isWrittenChar (c : Char) : Bool := !isBlankChar c

/-- What fills the gaps of a text: the white space before the first of its other characters, between each
    of them and the next one, and after the last. -/
def gaps (cs : List Char) : List (List Char) := pieces isWrittenChar cs

theorem isWrittenChar_of_not_blank {c : Char} (h : isBlankChar c = false) : isWrittenChar c = true := by
  rw [isWrittenChar, h]
  rfl

theorem isWrittenChar_of_blank {c : Char} (h : isBlankChar c = true) : isWrittenChar c = false := by
  rw [isWrittenChar, h]
  rfl

theorem gaps_cons_of_not_blank {c : Char} (h : isBlankChar c = false) (cs : List Char) :
    gaps (c :: cs) = [] :: gaps cs := by
  rw [gaps, pieces, if_pos (isWrittenChar_of_not_blank h)]
  rfl

theorem gaps_cons_of_blank {c : Char} (h : isBlankChar c = true) (cs : List Char) :
    gaps (c :: cs) = (gaps cs).modifyHead (c :: ·) := by
  rw [gaps, gaps, pieces_eq_splitOnP, pieces_eq_splitOnP, List.splitOnP_cons_eq_if_modifyHead,
    if_neg (ne_true_of_eq_false (isWrittenChar_of_blank h))]

/-- A text is told by its gaps and its other characters. -/
theorem eq_of_gaps_eq {cs ds : List Char} (hgaps : gaps cs = gaps ds)
    (hwritten : cs.filter isWrittenChar = ds.filter isWrittenChar) : cs = ds := by
  rw [gaps, gaps, pieces_eq_splitOnP, pieces_eq_splitOnP] at hgaps
  rw [← List.splitOnP_spec (p := isWrittenChar) cs, ← List.splitOnP_spec (p := isWrittenChar) ds, hgaps,
    hwritten]

/-- What a text comes to when its white space is collapsed: it has no white space but single spaces, the
    same other characters, and it is in the same places that there is nothing between them. -/
structure IsCollapsed (cs out : List Char) : Prop where
  spaces : ∀ c ∈ out, isBlankChar c = true → c = ' '
  apart : out.IsChain fun c d => isBlankChar c = true → isBlankChar d = false
  written : out.filter isWrittenChar = cs.filter isWrittenChar
  separated : (gaps out).map List.isEmpty = (gaps cs).map List.isEmpty

/-! ## Collapsing -/

/-- Collapsing goes from the end of a text to its start: a character that is no white space is kept, white
    space becomes a space, and more white space in front of it goes. -/
theorem collapse_induct {motive : List Char → List Char → Prop} (nil : motive [] [])
    (written : ∀ c cs, isBlankChar c = false → motive cs (collapse cs) → motive (c :: cs) (c :: collapse cs))
    (space : ∀ c cs, isBlankChar c = true → (∀ rest, collapse cs ≠ ' ' :: rest) →
      motive cs (collapse cs) → motive (c :: cs) (' ' :: collapse cs))
    (more : ∀ c cs rest, isBlankChar c = true → collapse cs = ' ' :: rest → motive cs (' ' :: rest) →
      motive (c :: cs) (' ' :: rest)) (cs : List Char) : motive cs (collapse cs) := by
  induction cs with
  | nil => exact nil
  | cons c cs ih =>
    cases hc : isBlankChar c with
    | false =>
      rw [collapse_cons_of_not_blank hc]
      exact written c cs hc ih
    | true =>
      by_cases hspace : ∃ rest, collapse cs = ' ' :: rest
      · obtain ⟨rest, hrest⟩ := hspace
        rw [collapse_cons_of_space hc hrest]
        exact more c cs rest hc hrest (hrest ▸ ih)
      · rw [collapse_cons_of_ne_space hc (not_exists.1 hspace)]
        exact space c cs hc (not_exists.1 hspace) ih

/-- White space in front fills the first gap, whatever has been in it. -/
theorem map_isEmpty_gaps_cons_of_blank {c : Char} (h : isBlankChar c = true) (cs : List Char) :
    (gaps (c :: cs)).map List.isEmpty = false :: ((gaps cs).map List.isEmpty).tail := by
  rw [gaps_cons_of_blank h]
  cases hgaps : gaps cs with
  | nil => exact absurd hgaps (pieces_ne_nil isWrittenChar cs)
  | cons gap rest => rfl

theorem filter_cons_of_blank {c : Char} (h : isBlankChar c = true) (cs : List Char) :
    (c :: cs).filter isWrittenChar = cs.filter isWrittenChar :=
  List.filter_cons_of_neg (ne_true_of_eq_false (isWrittenChar_of_blank h))

theorem IsCollapsed.cons_written {c : Char} {cs out : List Char} (h : IsCollapsed cs out)
    (hc : isBlankChar c = false) : IsCollapsed (c :: cs) (c :: out) where
  spaces := List.forall_mem_cons.2 ⟨fun hblank => absurd hblank (ne_true_of_eq_false hc), h.spaces⟩
  apart := h.apart.cons fun d _ hblank => absurd hblank (ne_true_of_eq_false hc)
  written := by
    rw [List.filter_cons_of_pos (isWrittenChar_of_not_blank hc),
      List.filter_cons_of_pos (isWrittenChar_of_not_blank hc), h.written]
  separated := by
    rw [gaps_cons_of_not_blank hc, gaps_cons_of_not_blank hc, List.map_cons, List.map_cons, h.separated]

theorem IsCollapsed.cons_space {c : Char} {cs out : List Char} (h : IsCollapsed cs out)
    (hc : isBlankChar c = true) (hstart : ∀ rest, out ≠ ' ' :: rest) :
    IsCollapsed (c :: cs) (' ' :: out) where
  spaces := List.forall_mem_cons.2 ⟨fun _ => rfl, h.spaces⟩
  apart := by
    refine h.apart.cons fun d hd _ => ?_
    -- a blank character after the space would be a second one
    obtain ⟨rest, hrest⟩ := List.head?_eq_some_iff.1 hd
    by_contra hblank
    have hspace := h.spaces d (by rw [hrest]; exact List.mem_cons_self) (by simpa using hblank)
    exact hstart rest (hspace ▸ hrest)
  written := by rw [filter_cons_of_blank isBlankChar_space, filter_cons_of_blank hc, h.written]
  separated := by
    rw [map_isEmpty_gaps_cons_of_blank isBlankChar_space, map_isEmpty_gaps_cons_of_blank hc, h.separated]

theorem IsCollapsed.cons_more {c : Char} {cs rest : List Char} (h : IsCollapsed cs (' ' :: rest))
    (hc : isBlankChar c = true) : IsCollapsed (c :: cs) (' ' :: rest) where
  spaces := h.spaces
  apart := h.apart
  written := by rw [filter_cons_of_blank hc, h.written]
  separated := by
    rw [map_isEmpty_gaps_cons_of_blank hc, ← h.separated, map_isEmpty_gaps_cons_of_blank isBlankChar_space]
    rfl

theorem isCollapsed_collapse (cs : List Char) : IsCollapsed cs (collapse cs) := by
  refine collapse_induct ?nil ?written ?space ?more cs
  case nil => exact ⟨nofun, .nil, rfl, rfl⟩
  case written =>
    intro c cs hc ih
    exact ih.cons_written hc
  case space =>
    intro c cs hc hstart ih
    exact ih.cons_space hc hstart
  case more =>
    intro c cs rest hc _ ih
    exact ih.cons_more hc

/-- In a text without white space but single spaces a gap is empty or filled by one. -/
theorem gaps_eq_map {out : List Char} (hspaces : ∀ c ∈ out, isBlankChar c = true → c = ' ')
    (hapart : out.IsChain fun c d => isBlankChar c = true → isBlankChar d = false) :
    gaps out = ((gaps out).map List.isEmpty).map fun isEmpty => if isEmpty then [] else [' '] := by
  induction out with
  | nil => rfl
  | cons c cs ih =>
    obtain ⟨hc, hcs⟩ := List.forall_mem_cons.1 hspaces
    obtain ⟨hnext, htail⟩ := List.isChain_cons.1 hapart
    have hrest := ih hcs htail
    cases hblank : isBlankChar c with
    | false =>
      rw [gaps_cons_of_not_blank hblank, List.map_cons, List.map_cons, ← hrest]
      rfl
    | true =>
      obtain rfl := hc hblank
      rw [gaps_cons_of_blank hblank]
      cases cs with
      | nil => rfl
      | cons d ds =>
        have hd : isBlankChar d = false := hnext d rfl hblank
        rw [gaps_cons_of_not_blank hd, List.map_cons, List.map_cons, List.cons_eq_cons] at hrest
        rw [gaps_cons_of_not_blank hd, List.modifyHead_cons, List.map_cons, List.map_cons, ← hrest.2]
        rfl

/-- The law of collapsing: only the collapsed text keeps it. -/
theorem isCollapsed_iff {cs out : List Char} : IsCollapsed cs out ↔ out = collapse cs := by
  constructor
  · intro h
    have hcollapse := isCollapsed_collapse cs
    refine eq_of_gaps_eq ?_ (h.written.trans hcollapse.written.symm)
    rw [gaps_eq_map h.spaces h.apart, gaps_eq_map hcollapse.spaces hcollapse.apart, h.separated,
      hcollapse.separated]
  · rintro rfl
    exact isCollapsed_collapse cs

end MarkupCleaner.Text
