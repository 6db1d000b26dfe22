import MarkupCleaner.Proofs.Markup.Building
import MarkupCleaner.Proofs.Markup.Tokens
import MarkupCleaner.Proofs.Tree.Nodes

/-!
# What every built tree has

A property that nodes have by the way they are placed holds of every node of the tree that tokens build,
in whatever order the tokenizer yields them. The property may depend on whether an element around the node
keeps blank text. An element that never has content is closed before the next token is added, and an
element of raw text is closed before anything but text is.
-/

namespace MarkupCleaner.Markup

open Node

mutual

/-- The property holds of every node of a subtree; `kept` tells whether an element around it keeps blank
    text. -/
def Everywhere (good : Bool → Node → Prop) (kept : Bool) : Node → Prop
  | .element tag attrs children ns =>
    good kept (.element tag attrs children ns) ∧ EverywhereBelow good (kept || keepsBlankText tag) children
  | .text value => good kept (.text value)
  | .comment data => good kept (.comment data)

/-- The property holds of every node of several subtrees. -/
def EverywhereBelow (good : Bool → Node → Prop) (kept : Bool) : List Node → Prop
  | [] => True
  | n :: ns => Everywhere good kept n ∧ EverywhereBelow good kept ns

end

theorem everywhereBelow_iff {good : Bool → Node → Prop} {kept : Bool} {ns : List Node} :
    EverywhereBelow good kept ns ↔ ∀ n ∈ ns, Everywhere good kept n := by
  induction ns with
  | nil => exact iff_of_true trivial (List.forall_mem_nil _)
  | cons n ns ih => rw [EverywhereBelow, ih, List.forall_mem_cons]

theorem everywhereBelow_reverse {good : Bool → Node → Prop} {kept : Bool} {ns : List Node} :
    EverywhereBelow good kept ns.reverse ↔ EverywhereBelow good kept ns := by
  simp only [everywhereBelow_iff, List.mem_reverse]

mutual

/-- A property that does not depend on the place of a node. -/
theorem everywhere_const {good : Node → Prop} : ∀ {kept : Bool} {n : Node},
    Everywhere (fun _ => good) kept n ↔ ∀ m ∈ n.nodes, good m
  | kept, .element tag attrs children ns => by
    rw [Everywhere, forall_nodes_element, everywhereBelow_const]
  | kept, .text value => by rw [Everywhere, forall_nodes_text]
  | kept, .comment data => by rw [Everywhere, forall_nodes_comment]

theorem everywhereBelow_const {good : Node → Prop} : ∀ {kept : Bool} {ns : List Node},
    EverywhereBelow (fun _ => good) kept ns ↔ ∀ m ∈ nodesAll ns, good m
  | kept, [] => iff_of_true trivial (List.forall_mem_nil _)
  | kept, n :: ns => by
    rw [EverywhereBelow, forall_nodesAll_cons, everywhere_const, everywhereBelow_const]

end

/-- Children that an element of the given name can have as far as it holds raw text. -/
def RawBelow (tag : String) (children : List Node) : Prop :=
  isRawTextElement tag = true → ∀ n ∈ children, isText n = true

/-- What a node has by the way it is placed: a text and a comment take the form that they have there,
    and an element has the name and the attributes of a start tag, no children if it never has content,
    and nothing but texts if its content is raw. -/
structure HoldsWhenPlaced (good : Bool → Node → Prop) : Prop where
  text : ∀ kept value, good kept (.text (shortText kept value))
  comment : ∀ kept data, EndsNoComment data.toList → good kept (.comment (shortText kept data))
  element : ∀ {kept c cs rest tag attrs closed children}, isAsciiLetter c = true →
    startTag (c :: cs) = .ok (.tag tag attrs closed rest) → (tag ∈ emptyElements → children = []) →
    RawBelow tag children → good kept (.element tag attrs children none)

/-- An open element that has the property as it stands, and whatever is placed in it. -/
structure OpenElement.Holds (good : Bool → Node → Prop) (kept : Bool) (e : OpenElement) : Prop where
  element : ∀ children, RawBelow e.tag children → good kept (.element e.tag e.attrs children none)
  inside : EverywhereBelow good (kept || keepsBlankText e.tag) e.children
  raw : RawBelow e.tag e.children

/-- Open elements inside each other, the innermost first, that all have the property. -/
def OpenHold (good : Bool → Node → Prop) : List OpenElement → Prop
  | [] => True
  | e :: outer => e.Holds good (outer.any fun e => keepsBlankText e.tag) ∧ OpenHold good outer

namespace Draft

variable {good : Bool → Node → Prop} {d : Draft}

/-! ## The names of the open elements -/

/-- The names of the open elements, the innermost first. -/
def openTags (d : Draft) : List String := d.opened.map OpenElement.tag

@[simp] theorem openTags_append (d : Draft) (n : Node) : (d.append n).openTags = d.openTags := by
  unfold append openTags
  split
  · rfl
  · next e outer heq => rw [heq]; rfl

@[simp] theorem openTags_flushAs (d : Draft) (make : String → Node) :
    (d.flushAs make).openTags = d.openTags := by
  unfold flushAs
  split
  · rfl
  · exact openTags_append _ _

@[simp] theorem openTags_flush (d : Draft) : d.flush.openTags = d.openTags := openTags_flushAs d .text

theorem openTags_closeInnermost (d : Draft) : d.closeInnermost.openTags = d.openTags.tail := by
  unfold closeInnermost
  split
  · next heq => rw [openTags, heq]; rfl
  · next e outer heq =>
    rw [openTags_append, openTags, openTags, heq]
    rfl

theorem openTags_closeMany (d : Draft) (count : Nat) :
    (closeMany count d).openTags = d.openTags.drop count := by
  induction count generalizing d with
  | zero => rfl
  | succ count ih => rw [closeMany, ih, openTags_closeInnermost, List.drop_tail]

theorem openTags_close (d : Draft) (tag : String) :
    ∃ count, (d.close tag).openTags = d.openTags.drop count := by
  simp only [close]
  split
  · exact ⟨0, openTags_flush d⟩
  · next inner heq => exact ⟨inner + 1, by rw [openTags_closeMany, openTags_flush]⟩

/-- Closing the innermost open element by its name. -/
theorem openTags_close_of_head {tag : String} {outer : List String} (h : d.openTags = tag :: outer) :
    (d.close tag).openTags = outer := by
  have hflush := (openTags_flush d).trans h
  unfold openTags at hflush
  obtain ⟨e, rest, heq, htag, -⟩ := List.map_eq_cons_iff.1 hflush
  have hfind : d.flush.opened.findIdx? (fun e => e.tag = tag) = some 0 := by
    rw [heq, List.findIdx?_cons, htag]
    simp
  simp only [close, hfind]
  rw [openTags_closeMany, openTags_flush, h]
  rfl

theorem openTags_close_enter (d : Draft) (tag : String) (attrs : Attributes) :
    ((d.enter tag attrs).close tag).openTags = d.openTags := by
  rw [close_enter, openTags_append, openTags_flush]

-- a slash closes its `br` also while the end tag of an earlier one may still come
example : ((({} : Draft).add (.opening "br" [])).add (.selfClosing "br" [])).openTags = [] := by decide

/-- Which elements are open in a mode: only the innermost one may hold raw text, and it is the one whose
    end tag is looked for. -/
inductive InMode : Mode → List String → Prop
  | markup {tags : List String} (plain : ∀ tag ∈ tags, isRawTextElement tag = false) :
      InMode .markup tags
  | rawText {tag : String} {outer : List String} (raw : isRawTextElement tag = true)
      (plain : ∀ tag ∈ outer, isRawTextElement tag = false) : InMode (.rawText tag) (tag :: outer)

/-- In raw text the innermost open element is the one that holds it. -/
theorem InMode.exists_outer {tag : String} {tags : List String} (h : InMode (.rawText tag) tags) :
    ∃ outer, tags = tag :: outer ∧ isRawTextElement tag = true ∧
      ∀ other ∈ outer, isRawTextElement other = false := by
  cases h with
  | rawText raw plain => exact ⟨_, rfl, raw, plain⟩

theorem InMode.drop {tags : List String} (h : InMode .markup tags) (count : Nat) :
    InMode .markup (tags.drop count) := by
  cases h with
  | markup plain => exact .markup fun tag htag => plain tag (List.mem_of_mem_drop htag)

theorem InMode.tail {mode : Mode} {tags : List String} (h : InMode mode tags) :
    InMode .markup tags.tail := by
  cases h with
  | markup plain => exact .markup fun tag htag => plain tag (List.mem_of_mem_tail htag)
  | rawText raw plain => exact .markup plain

/-- After a start tag its element is open. -/
theorem InMode.cons {tags : List String} (h : InMode .markup tags) (tag : String) :
    InMode (modeAfter tag false) (tag :: tags) := by
  cases h with
  | markup plain =>
    by_cases hraw : isRawTextElement tag = true
    · rw [modeAfter, hraw]
      exact .rawText hraw plain
    · rw [modeAfter, eq_false_of_ne_true hraw]
      exact .markup (List.forall_mem_cons.2 ⟨eq_false_of_ne_true hraw, plain⟩)

theorem isRawTextElement_of_mem_emptyElements {tag : String} (h : tag ∈ emptyElements) :
    isRawTextElement tag = false := by
  have hall : ∀ tag ∈ emptyElements, isRawTextElement tag = false := by decide
  exact hall tag h

/-! ## Nodes that are placed -/

/-- The property holds of every node that has been placed, and of the open elements whatever is placed
    in them. -/
structure Holds (good : Bool → Node → Prop) (d : Draft) : Prop where
  top : EverywhereBelow good false d.top
  opened : OpenHold good d.opened
  closedEmpty : ∀ tag ∈ d.closedEmpty, tag ∈ emptyElements

theorem Holds.empty : Holds good {} := ⟨trivial, trivial, fun _ h => nomatch h⟩

/-- Text that is waiting has no place yet. -/
theorem Holds.read (h : Holds good d) (cs : List Char) : Holds good (d.read cs) :=
  ⟨h.top, h.opened, h.closedEmpty⟩

/-- A node can be placed if it is a text, or if the innermost open element does not hold raw text. -/
theorem Holds.append (h : Holds good d) {n : Node} (hn : Everywhere good d.keepsBlanks n)
    (hraw : isText n = true ∨ InMode .markup d.openTags) : Holds good (d.append n) := by
  unfold Draft.append
  split
  · next heq =>
    have hkept : d.keepsBlanks = false := by rw [keepsBlanks, heq]; rfl
    rw [hkept] at hn
    exact ⟨⟨hn, h.top⟩, h.opened, h.closedEmpty⟩
  · next e outer heq =>
    have hopened := h.opened
    rw [heq] at hopened
    obtain ⟨he, houter⟩ := hopened
    have hkept : d.keepsBlanks = ((outer.any fun e => keepsBlankText e.tag) || keepsBlankText e.tag) := by
      rw [keepsBlanks, heq, List.any_cons, Bool.or_comm]
    rw [hkept] at hn
    refine ⟨h.top, ⟨⟨he.element, ⟨hn, he.inside⟩, fun htag => ?_⟩, houter⟩, h.closedEmpty⟩
    refine List.forall_mem_cons.2 ⟨?_, he.raw htag⟩
    rcases hraw with htext | hmode
    · exact htext
    · rw [openTags, heq] at hmode
      cases hmode with
      | markup plain =>
        have := plain e.tag List.mem_cons_self
        rw [htag] at this
        cases this

theorem Holds.flushAs (h : Holds good d) {make : String → Node}
    (hmake : ∀ kept cs, d.pending = some cs → Everywhere good kept (make (shortText kept (.ofList cs))))
    (hraw : (∀ value, isText (make value) = true) ∨ InMode .markup d.openTags) :
    Holds good (d.flushAs make) := by
  unfold Draft.flushAs
  split
  · exact h
  · next cs heq =>
    have hwaiting : Holds good { d with pending := none } := ⟨h.top, h.opened, h.closedEmpty⟩
    have hplaced : String.ofList (d.placed cs) = shortText d.keepsBlanks (.ofList cs) := by
      have := placed_toList (d := d) rfl (.ofList cs)
      rwa [String.toList_ofList] at this
    rw [hplaced]
    exact hwaiting.append (hmake _ cs heq) (hraw.imp_left fun htext => htext _)

/-- The innermost open element is placed in one that does not hold raw text. -/
theorem Holds.closeInnermost (h : Holds good d) (hmode : InMode .markup d.openTags.tail) :
    Holds good d.closeInnermost := by
  unfold Draft.closeInnermost
  split
  · exact h
  · next e outer heq =>
    have hopened := h.opened
    rw [heq] at hopened
    obtain ⟨he, houter⟩ := hopened
    have hplaced : Holds good { d with opened := outer } := ⟨h.top, houter, h.closedEmpty⟩
    refine hplaced.append ⟨?_, everywhereBelow_reverse.2 he.inside⟩ (Or.inr ?_)
    · exact he.element _ fun htag n hn => he.raw htag n (List.mem_reverse.1 hn)
    · rwa [openTags, heq] at hmode

theorem Holds.closeMany (h : Holds good d) (hmode : InMode .markup d.openTags.tail) (count : Nat) :
    Holds good (closeMany count d) := by
  induction count generalizing d with
  | zero => exact h
  | succ count ih =>
    refine ih (h.closeInnermost hmode) ?_
    rw [openTags_closeInnermost]
    exact hmode.tail

section

variable (hgood : HoldsWhenPlaced good)

include hgood

theorem Holds.flush (h : Holds good d) : Holds good d.flush :=
  h.flushAs (fun kept cs _ => hgood.text kept (.ofList cs)) (Or.inl fun _ => rfl)

theorem Holds.close (h : Holds good d) (hmode : InMode .markup d.openTags.tail) (tag : String) :
    Holds good (d.close tag) := by
  simp only [Draft.close]
  split
  · exact h.flush hgood
  · refine (h.flush hgood).closeMany ?_ _
    rwa [openTags_flush]

/-- A start tag opens its element. -/
theorem Holds.enter (h : Holds good d) {c : Char} {cs rest : List Char} {tag : String} {attrs : Attributes}
    {closed : Bool} (hletter : isAsciiLetter c = true)
    (hstart : startTag (c :: cs) = .ok (.tag tag attrs closed rest)) (hempty : tag ∉ emptyElements) :
    Holds good (d.enter tag attrs) := by
  have hflush := h.flush hgood
  refine ⟨hflush.top, ⟨⟨fun children hraw => ?_, trivial, fun _ n hn => nomatch hn⟩, hflush.opened⟩,
    hflush.closedEmpty⟩
  exact hgood.element hletter hstart (fun htag => absurd htag hempty) hraw

/-- A start tag whose element is closed at once places it without children. -/
theorem Holds.close_enter (h : Holds good d) (hmode : InMode .markup d.openTags) {c : Char}
    {cs rest : List Char} {tag : String} {attrs : Attributes} {closed : Bool}
    (hletter : isAsciiLetter c = true) (hstart : startTag (c :: cs) = .ok (.tag tag attrs closed rest)) :
    Holds good ((d.enter tag attrs).close tag) := by
  rw [Draft.close_enter]
  refine (h.flush hgood).append ⟨?_, trivial⟩ (Or.inr ?_)
  · exact hgood.element hletter hstart (fun _ => rfl) fun _ n hn => nomatch hn
  · rwa [openTags_flush]

/-! ## One token -/

/-- The property holds, and in a mode is open what the mode tells. -/
structure HoldsIn (good : Bool → Node → Prop) (mode : Mode) (d : Draft) : Prop where
  holds : Holds good d
  mode : InMode mode d.openTags

/-- An element that never has content is closed at once, any other one stays open. -/
theorem HoldsIn.add_opening (h : HoldsIn good .markup d) {c : Char} {cs rest : List Char} {tag : String}
    {attrs : Attributes} (hletter : isAsciiLetter c = true)
    (hstart : startTag (c :: cs) = .ok (.tag tag attrs false rest)) :
    HoldsIn good (modeAfter tag false) (d.add (.opening tag attrs)) := by
  by_cases htag : tag ∈ emptyElements
  · have hclosed := h.holds.close_enter hgood h.mode hletter hstart
    rw [Draft.add, if_pos htag, modeAfter, isRawTextElement_of_mem_emptyElements htag]
    refine ⟨⟨hclosed.top, hclosed.opened, List.forall_mem_cons.2 ⟨htag, hclosed.closedEmpty⟩⟩, ?_⟩
    show InMode .markup ((d.enter tag attrs).close tag).openTags
    rw [openTags_close_enter]
    exact h.mode
  · have htags : (d.enter tag attrs).openTags = tag :: d.openTags := congrArg (tag :: ·) (openTags_flush d)
    rw [Draft.add, if_neg htag]
    refine ⟨h.holds.enter hgood hletter hstart htag, ?_⟩
    rw [htags]
    exact h.mode.cons tag

theorem HoldsIn.add_selfClosing (h : HoldsIn good .markup d) {c : Char} {cs rest : List Char} {tag : String}
    {attrs : Attributes} (hletter : isAsciiLetter c = true)
    (hstart : startTag (c :: cs) = .ok (.tag tag attrs true rest)) :
    HoldsIn good .markup (d.add (.selfClosing tag attrs)) := by
  rw [Draft.add]
  refine ⟨h.holds.close_enter hgood h.mode hletter hstart, ?_⟩
  rw [openTags_close_enter]
  exact h.mode

theorem HoldsIn.add_closing (h : HoldsIn good .markup d) (tag : String) :
    HoldsIn good .markup (d.add (.closing tag)) := by
  rw [Draft.add]
  split
  · exact ⟨⟨h.holds.top, h.holds.opened, fun t ht => h.holds.closedEmpty t (List.mem_of_mem_erase ht)⟩, h.mode⟩
  · obtain ⟨count, htags⟩ := openTags_close d tag
    refine ⟨h.holds.close hgood h.mode.tail tag, ?_⟩
    rw [htags]
    exact h.mode.drop count

/-- The end tag of an element of raw text closes it. It is not passed over, since no element that never has
    content holds raw text. -/
theorem HoldsIn.add_rawTextEnd {tag : String} (h : HoldsIn good (.rawText tag) d) :
    HoldsIn good .markup (d.add (.closing tag)) := by
  have htail := h.mode.tail
  obtain ⟨outer, htags, hraw, hplain⟩ := h.mode.exists_outer
  have hclosed : tag ∉ d.closedEmpty := by
    intro hmem
    have hnotRaw := isRawTextElement_of_mem_emptyElements (h.holds.closedEmpty tag hmem)
    rw [hraw] at hnotRaw
    cases hnotRaw
  rw [Draft.add, if_neg hclosed]
  refine ⟨h.holds.close hgood htail tag, ?_⟩
  rw [openTags_close_of_head htags]
  exact .markup hplain

/-- A comment is placed where it stands, after the text before it. -/
theorem HoldsIn.add_comment (h : HoldsIn good .markup d) {cs : List Char} (hcs : EndsNoComment cs) :
    HoldsIn good .markup (d.add (.comment cs)) := by
  have htags : (d.flush.read cs).openTags = d.openTags := openTags_flush d
  have hpending : (d.flush.read cs).pending = some cs := by
    rw [read, pending_flush]
    rfl
  refine ⟨((h.holds.flush hgood).read cs).flushAs (fun kept data hdata => ?_) (Or.inr (htags ▸ h.mode)), ?_⟩
  · obtain rfl := Option.some.inj (hpending.symm.trans hdata)
    exact hgood.comment kept (.ofList cs) (by rwa [String.toList_ofList])
  · rw [Draft.add, openTags_flushAs, htags]
    exact h.mode

theorem HoldsIn.add_characterData (h : HoldsIn good .markup d) (cs : List Char) :
    HoldsIn good .markup (d.add (.characterData cs)) := by
  have htags : (d.flush.read cs).openTags = d.openTags := openTags_flush d
  refine ⟨((h.holds.flush hgood).read cs).flush hgood, ?_⟩
  rw [Draft.add, openTags_flush, htags]
  exact h.mode

theorem HoldsIn.add_ignored (h : HoldsIn good .markup d) (kind : Ignored) :
    HoldsIn good .markup (d.add (.ignored kind)) := by
  have hflush := h.holds.flush hgood
  have htags : (d.add (.ignored kind)).openTags = d.openTags := openTags_flush d
  refine ⟨⟨hflush.top, hflush.opened, hflush.closedEmpty⟩, ?_⟩
  rw [htags]
  exact h.mode

/-- Every token that the tokenizer can yield keeps the property, and leaves open what the mode after it
    tells. -/
theorem HoldsIn.add {mode mode' : Mode} (h : HoldsIn good mode d) {t : Token} (ht : Yields mode t mode') :
    HoldsIn good mode' (d.add t) := by
  cases ht with
  | text mode cs => exact ⟨h.holds.read cs, h.mode⟩
  | opening letter start => exact h.add_opening hgood letter start
  | selfClosing letter start => exact h.add_selfClosing hgood letter start
  | closing tag => exact h.add_closing hgood tag
  | rawTextEnd tag => exact h.add_rawTextEnd hgood
  | comment payload => exact h.add_comment hgood payload
  | characterData cs => exact h.add_characterData hgood cs
  | ignored kind => exact h.add_ignored hgood kind

theorem HoldsIn.foldl_add {mode mode' : Mode} (h : HoldsIn good mode d) {ts : List Token}
    (hts : YieldsAll mode ts mode') : HoldsIn good mode' (ts.foldl Draft.add d) := by
  induction hts generalizing d with
  | nil mode => exact h
  | cons first _ ih => exact ih (h.add hgood first)

end

end Draft

/-- A property that nodes have by the way they are placed holds of every node of the tree that tokens
    build. -/
theorem everywhereBelow_ofTokens {good : Bool → Node → Prop} (hgood : HoldsWhenPlaced good)
    {ts : List Token} {mode : Mode} (hts : YieldsAll .markup ts mode) :
    EverywhereBelow good false (Document.ofTokens ts).fragment := by
  have hstart : Draft.HoldsIn good .markup {} := ⟨.empty, .markup fun _ h => nomatch h⟩
  have hread := hstart.foldl_add hgood hts
  have hfinish := (hread.holds.flush hgood).closeMany (by rw [Draft.openTags_flush]; exact hread.mode.tail)
    (ts.foldl Draft.add {}).flush.opened.length
  exact everywhereBelow_reverse.2 hfinish.top

end MarkupCleaner.Markup
