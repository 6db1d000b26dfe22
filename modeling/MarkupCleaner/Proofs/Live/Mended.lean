import MarkupCleaner.Proofs.Live.Cleanup
import MarkupCleaner.Proofs.Live.Places

/-!
# Mending the nesting in place

Which elements become a `span` is told by the document that comes out: those blocks whose parent is a
paragraph there, and not those whose parent was one before. Only one document with the same nodes in the same
places keeps this law, and it is what the pass comes to from the top down.
-/

namespace MarkupCleaner.Live

open LiveNode Cleanup

/-! ## The law -/

/-- The tag of the node that holds a place. A place at the top of a document is held by none. -/
def holderTag? (slots : List LiveNode) (path : Path) : Option String :=
  (find? slots path.dropLast).bind tag?

/-- A node before and after mending. Only its tag may be another one, and what is below it, which is mended
    on its own. -/
inductive Mends (inParagraph : Prop) : LiveNode → LiveNode → Prop
  | element {link : Link} {tag tag' : String} {attrs : Attributes} {children children' : List LiveNode}
      {ns : Option String} (block : inParagraph → tag ∈ paragraphBlocks → tag' = "span")
      (other : ¬(inParagraph ∧ tag ∈ paragraphBlocks) → tag' = tag) :
      Mends inParagraph (.element link tag attrs children ns) (.element link tag' attrs children' ns)
  | text {link : Link} {value : String} : Mends inParagraph (.text link value) (.text link value)
  | comment {link : Link} {data : String} : Mends inParagraph (.comment link data) (.comment link data)

/-- Mended nesting: every node is in its place, and what has become of it goes by the tag that its holder
    has afterwards. -/
def IsMended (before after : List LiveNode) : Prop :=
  PlaceByPlace (fun path => Mends (holderTag? after path = some "p")) before after

theorem Mends.bare_eq {inParagraph : Prop} {n m m' : LiveNode} (h : Mends inParagraph n m)
    (h' : Mends inParagraph n m') : m.bare = m'.bare := by
  cases h with
  | @element link tag tag₁ attrs children children₁ ns block other =>
    cases h' with
    | @element _ _ tag₂ _ _ children₂ _ block' other' =>
      have htag : tag₁ = tag₂ := by
        by_cases hblock : inParagraph ∧ tag ∈ paragraphBlocks
        · rw [block hblock.1 hblock.2, block' hblock.1 hblock.2]
        · rw [other hblock, other' hblock]
      rw [htag]
      rfl
  | text =>
    cases h'
    rfl
  | comment =>
    cases h'
    rfl

theorem tag?_bare (n : LiveNode) : n.bare.tag? = n.tag? := by
  cases n <;> rfl

theorem holderTag?_eq_bind_map_bare (slots : List LiveNode) (path : Path) :
    holderTag? slots path = ((find? slots path.dropLast).map bare).bind tag? := by
  rw [holderTag?, Option.bind_map]
  exact congrArg _ (funext fun n => (tag?_bare n).symm)

/-- The law settles the document: at every place by what it has settled one step before. -/
theorem IsMended.unique {before after after' : List LiveNode} (h : IsMended before after)
    (h' : IsMended before after') : after = after' := by
  refine eq_of_map_bare_find? fun path => ?_
  induction path using List.reverseRecOn with
  | nil => rfl
  | append_singleton path index ih =>
    have hholder : holderTag? after (path ++ [index]) = holderTag? after' (path ++ [index]) := by
      rw [holderTag?_eq_bind_map_bare, holderTag?_eq_bind_map_bare, List.dropLast_concat, ih]
    refine h.map_bare_eq h' fun n m m' hm hm' => ?_
    rw [hholder] at hm
    exact hm.bare_eq hm'

/-! ## The pass -/

theorem mends_editNode {inParagraph : Prop} {s : Bool} (hs : s = true ↔ inParagraph) (n : LiveNode) :
    Mends inParagraph n (editNode nestingEdit s n) := by
  cases n with
  | element link tag attrs children ns =>
    refine .element (fun hin hblock => ?_) fun hout => ?_
    · show nestedTag s tag = "span"
      rw [nestedTag, hs.2 hin, List.contains_iff_mem.2 hblock]
      rfl
    · show nestedTag s tag = tag
      rcases nestedTag_cases s tag with hsame | ⟨hin, hblock, -⟩
      · exact hsame
      · exact absurd ⟨hs.1 hin, hblock⟩ hout
  | text link value => exact .text
  | comment link data => exact .comment

/-- What the pass hands on to a node is whether its holder is a paragraph by then. -/
theorem handedTo_nestingEdit {slots : List LiveNode} {path : Path} {n : LiveNode}
    (h : find? slots path = some n) : nestingEdit.handedTo false slots path = true ↔
      holderTag? (editBelow nestingEdit false slots) path = some "p" := by
  induction path using List.reverseRecOn with
  | nil => cases h
  | append_singleton path index _ =>
    rw [holderTag?, List.dropLast_concat, find?_editBelow]
    rcases eq_nil_or_exists_holder h with rfl | ⟨holder, hholder⟩
    · exact iff_of_false Bool.false_ne_true nofun
    · rw [Edit.handedTo_concat hholder, hholder]
      rw [find?_concat hholder] at h
      cases holder with
      | element link tag attrs children ns =>
        show decide (nestedTag _ tag = "p") = true ↔ some (nestedTag _ tag) = some "p"
        rw [decide_eq_true_iff, Option.some.injEq]
      | text link value => cases h
      | comment link data => cases h

theorem isMended_editBelow (slots : List LiveNode) : IsMended slots (editBelow nestingEdit false slots) :=
  placeByPlace_editBelow fun _ n hn => mends_editNode (handedTo_nestingEdit hn) n

/-- No block is left in a paragraph. -/
theorem IsMended.notMem_paragraphBlocks {before after : List LiveNode} (h : IsMended before after)
    {path : Path} {n c : LiveNode} {tag : String} (hn : find? after path = some n) (hp : n.tag? = some "p")
    (hc : c ∈ n.children) (htag : c.tag? = some tag) : tag ∉ paragraphBlocks := by
  obtain ⟨index, hindex⟩ := List.getElem?_of_mem hc
  obtain ⟨o, -, hmends⟩ := h.exists_before ((find?_concat hn index).trans hindex)
  have hholder : holderTag? after (path ++ [index]) = some "p" := by
    rw [holderTag?, List.dropLast_concat, hn]
    exact hp
  cases hmends with
  | @element _ old _ _ _ _ _ block other =>
    obtain rfl := Option.some.inj htag
    by_cases hblock : old ∈ paragraphBlocks
    · rw [block hholder hblock]
      decide
    · rwa [other fun hboth => hblock hboth.2]
  | text => cases htag
  | comment => cases htag

/-! ## A whole document -/

/-- Mending the nesting of a document in place. Every node keeps its place, its identity and all it has but
    its tag; and an element has become a `span` exactly if it was a block and its parent is a paragraph
    now. No other document keeps this law. No paragraph holds a block any more, so that mending a second
    time changes nothing. -/
theorem fixNesting_isMended (d : LiveDocument) :
    let after := applyPass d.id .nesting d.children
    (∀ out, IsMended d.children out ↔ out = after)
      ∧ plainAll after = fixNesting d.plain
      ∧ (∀ path n, find? after path = some n → n.tag? = some "p" →
          ∀ c ∈ n.children, ∀ tag, c.tag? = some tag → tag ∉ paragraphBlocks)
      ∧ applyPass d.id .nesting after = after := by
  intro after
  have hmended : IsMended d.children after := isMended_editBelow d.children
  refine ⟨fun out => ⟨fun h => h.unique hmended, ?_⟩, plainAll_applyPass d.id .nesting d.children, ?_, ?_⟩
  · rintro rfl
    exact hmended
  · intro path n hn hp c hc tag htag
    exact hmended.notMem_paragraphBlocks hn hp hc htag
  · exact settles_nestingEdit.editBelow_editBelow false d.children

/-- Three paragraphs in one another with a block inside: the second one becomes a `span`, and so the third one
    stays, and what is in it has to become a `span`, too. -/
theorem fixNesting_isMended_paragraphs :
    let d := LiveDocument.ofPlain
      [.element "p" [] [.element "p" [] [.element "p" [] [.element "div" [] [] none] none] none] none]
    let after := applyPass d.id .nesting d.children
    let n : LiveNode := .element ⟨3, some 2⟩ "p" [] [.element ⟨4, some 3⟩ "span" [] [] none] none
    IsMended d.children after
      ∧ plainAll after =
        [.element "p" [] [.element "span" [] [.element "p" [] [.element "span" [] [] none] none] none] none]
      ∧ find? after [0, 0, 0] = some n ∧ n.tag? = some "p"
      ∧ (∀ c ∈ n.children, ∀ tag, c.tag? = some tag → tag ∉ paragraphBlocks)
      ∧ applyPass d.id .nesting after = after := by
  intro d after n
  obtain ⟨hlaw, hplain, hblocks, hagain⟩ := fixNesting_isMended d
  have hn : find? after [0, 0, 0] = some n := rfl
  refine ⟨(hlaw after).2 rfl, ?_, hn, rfl, hblocks [0, 0, 0] n hn rfl, hagain⟩
  rw [hplain]
  decide +kernel

end MarkupCleaner.Live
