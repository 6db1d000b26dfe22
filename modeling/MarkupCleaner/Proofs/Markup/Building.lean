import Mathlib.Tactic.Common
import MarkupCleaner.Proofs.Markup.Canonical

/-!
# Building written trees

The tokens that a written tree is read as build that tree again, with blank text and blank comments
shortened. `Spells ts ns` says that the tokens `ts` spell the nodes `ns` the way they are written; added
to a draft, they add exactly these nodes to its innermost open element.
-/

namespace MarkupCleaner.Markup

/-- The tokens that written nodes consist of. A text may come in several pieces, but no two texts stand
    side by side, and an element that never has content has no children. -/
inductive Spells : List Token → List Node → Prop
  | nil : Spells [] []
  | text {pieces : List (List Char)} {value : String} {ts : List Token} {ns : List Node}
      (nonempty : pieces ≠ []) (flat : pieces.flatten = value.toList)
      (apart : ∀ n ∈ ns.head?, isText n = false) (later : Spells ts ns) :
      Spells (pieces.map .text ++ ts) (.text value :: ns)
  | comment {data : String} {ts : List Token} {ns : List Node} (later : Spells ts ns) :
      Spells (.comment data.toList :: ts) (.comment data :: ns)
  | selfClosing {tag : String} {attrs : Attributes} {ts : List Token} {ns : List Node}
      (later : Spells ts ns) : Spells (.selfClosing tag attrs :: ts) (.element tag attrs [] none :: ns)
  | element {tag : String} {attrs : Attributes} {below ts : List Token} {children ns : List Node}
      (empty : tag ∈ emptyElements → children = []) (inner : Spells below children)
      (later : Spells ts ns) :
      Spells (.opening tag attrs :: (below ++ .closing tag :: ts))
        (.element tag attrs children none :: ns)

theorem Spells.eq_nil {ts : List Token} (h : Spells ts []) : ts = [] := by
  cases h
  rfl

/-- The form that a text or a comment takes where it is placed; `kept` tells whether an element around
    it keeps blank text. -/
def shortText (kept : Bool) (value : String) : String :=
  if value.toList.all isAsciiBlank && !kept then .ofList (shortBlank value.toList) else value

mutual

/-- A subtree with its blank texts and comments shortened. -/
def shortened (kept : Bool) : Node → Node
  | .element tag attrs children ns =>
    .element tag attrs (shortenedAll (kept || keepsBlankText tag) children) ns
  | .text value => .text (shortText kept value)
  | .comment data => .comment (shortText kept data)

/-- Several subtrees with their blank texts and comments shortened. -/
def shortenedAll (kept : Bool) : List Node → List Node
  | [] => []
  | n :: ns => shortened kept n :: shortenedAll kept ns

end

/-- A text keeps its form, or it is blank and takes the form of one space or one line feed. -/
theorem shortText_cases (kept : Bool) (value : String) : shortText kept value = value ∨
    (kept = false ∧ value.toList.all isAsciiBlank = true) ∧
      (shortText kept value = " " ∨ shortText kept value = "\n") := by
  rw [shortText]
  split
  · next hblank =>
    simp only [Bool.and_eq_true, Bool.not_eq_true'] at hblank
    refine Or.inr ⟨⟨hblank.2, hblank.1⟩, ?_⟩
    unfold shortBlank
    split
    · exact Or.inr rfl
    · exact Or.inl rfl
  · exact Or.inl rfl

@[simp] theorem shortText_shortText (kept : Bool) (value : String) :
    shortText kept (shortText kept value) = shortText kept value := by
  rcases shortText_cases kept value with heq | ⟨-, heq | heq⟩
  · rw [heq, heq]
  · rw [heq]
    cases kept <;> rfl
  · rw [heq]
    cases kept <;> rfl

theorem shortText_of_canonical {kept : Bool} {value : String} (h : CanonicalText kept value) :
    shortText kept value = value := by
  rcases shortText_cases kept value with heq | ⟨⟨hkept, hblank⟩, -⟩
  · exact heq
  · rcases h.short hkept hblank with rfl | rfl <;> cases kept <;> rfl

theorem shortenedAll_eq_nil {kept : Bool} {ns : List Node} (h : shortenedAll kept ns = []) : ns = [] := by
  cases ns with
  | nil => rfl
  | cons n ns => cases h

mutual

theorem shortened_of_canonical : ∀ {kept : Bool} {n : Node}, Canonical kept n → shortened kept n = n
  | kept, .element tag attrs children ns, h => by
    obtain ⟨-, -, -, -, hchildren⟩ := h
    rw [shortened, shortenedAll_of_canonical hchildren]
  | kept, .text value, h => congrArg Node.text (shortText_of_canonical h)
  | kept, .comment data, h => congrArg Node.comment (shortText_of_canonical h.1)

/-- Canonical trees have no blank text to shorten. -/
theorem shortenedAll_of_canonical : ∀ {kept : Bool} {ns : List Node}, CanonicalBelow kept ns →
    shortenedAll kept ns = ns
  | kept, [], _ => rfl
  | kept, n :: ns, h => by
    rw [shortenedAll, shortened_of_canonical h.1, shortenedAll_of_canonical h.2.2]

end

namespace Draft

variable {d : Draft}

/-- A draft with several nodes added at the end of its innermost open element. -/
def appendAll (d : Draft) (ns : List Node) : Draft := ns.foldl append d

@[simp] theorem appendAll_nil (d : Draft) : d.appendAll [] = d := rfl

@[simp] theorem appendAll_cons (d : Draft) (n : Node) (ns : List Node) :
    d.appendAll (n :: ns) = (d.append n).appendAll ns := rfl

@[simp] theorem pending_append (d : Draft) (n : Node) : (d.append n).pending = d.pending := by
  unfold append
  split <;> rfl

@[simp] theorem closedEmpty_append (d : Draft) (n : Node) :
    (d.append n).closedEmpty = d.closedEmpty := by
  unfold append
  split <;> rfl

@[simp] theorem keepsBlanks_append (d : Draft) (n : Node) :
    (d.append n).keepsBlanks = d.keepsBlanks := by
  unfold append keepsBlanks
  split
  · rfl
  · next e outer heq => rw [heq]; rfl

theorem flush_of_pending_none (h : d.pending = none) : d.flush = d := by
  rw [flush, flushAs, h]

@[simp] theorem pending_flush (d : Draft) : d.flush.pending = none := by
  unfold flush flushAs
  split
  · assumption
  · rw [pending_append]

@[simp] theorem closedEmpty_flush (d : Draft) : d.flush.closedEmpty = d.closedEmpty := by
  unfold flush flushAs
  split
  · rfl
  · rw [closedEmpty_append]

/-- Behind a node that is placed after the text before it no text is waiting. -/
theorem pending_flush_append (d : Draft) (n : Node) : (d.flush.append n).pending = none := by
  rw [pending_append, pending_flush]

theorem flush_flush_append (d : Draft) (n : Node) : (d.flush.append n).flush = d.flush.append n :=
  flush_of_pending_none (pending_flush_append d n)

@[simp] theorem keepsBlanks_flush (d : Draft) : d.flush.keepsBlanks = d.keepsBlanks := by
  unfold flush flushAs
  split
  · rfl
  · rw [keepsBlanks_append]
    rfl

/-! ## Opening and closing -/

theorem pending_enter (d : Draft) (tag : String) (attrs : Attributes) :
    (d.enter tag attrs).pending = none := pending_flush d

theorem closedEmpty_enter (d : Draft) (tag : String) (attrs : Attributes) :
    (d.enter tag attrs).closedEmpty = d.closedEmpty := closedEmpty_flush d

theorem keepsBlanks_enter (d : Draft) (tag : String) (attrs : Attributes) :
    (d.enter tag attrs).keepsBlanks = (d.keepsBlanks || keepsBlankText tag) := by
  have hflush : d.flush.keepsBlanks = d.keepsBlanks := keepsBlanks_flush d
  rw [Bool.or_comm, ← hflush]
  rfl

theorem appendAll_of_opened (e : OpenElement) (outer : List OpenElement)
    (h : d.opened = e :: outer) (ns : List Node) :
    d.appendAll ns = { d with opened := { e with children := ns.reverse ++ e.children } :: outer } := by
  induction ns generalizing d e with
  | nil =>
    rw [appendAll_nil, List.reverse_nil, List.nil_append, ← h]
  | cons n ns ih =>
    have happend : d.append n = { d with opened := { e with children := n :: e.children } :: outer } := by
      rw [append, h]
    rw [appendAll_cons, happend, ih { e with children := n :: e.children } rfl]
    simp

theorem appendAll_of_opened_nil (h : d.opened = []) (ns : List Node) :
    d.appendAll ns = { d with top := ns.reverse ++ d.top } := by
  induction ns generalizing d with
  | nil => rfl
  | cons n ns ih =>
    have happend : d.append n = { d with top := n :: d.top } := by rw [append, h]
    rw [appendAll_cons, happend, ih (d := { d with top := n :: d.top }) h]
    simp

/-- Closing an element that has been opened adds it with the nodes that came in between. -/
theorem close_of_flush {g : Draft} {tag : String} {attrs : Attributes} {ns : List Node}
    (h : g.flush = (d.enter tag attrs).appendAll ns) :
    g.close tag = d.flush.append (.element tag attrs ns none) := by
  have hopen : g.flush = { d.flush with opened := ⟨tag, attrs, ns.reverse⟩ :: d.flush.opened } := by
    rw [h, appendAll_of_opened ⟨tag, attrs, []⟩ d.flush.opened rfl, List.append_nil]
    rfl
  rw [close, hopen]
  simp only [List.findIdx?_cons, decide_true, if_true, closeMany, closeInnermost, OpenElement.node,
    List.reverse_reverse]

theorem close_enter (d : Draft) (tag : String) (attrs : Attributes) :
    (d.enter tag attrs).close tag = d.flush.append (.element tag attrs [] none) :=
  close_of_flush (flush_of_pending_none (pending_enter d tag attrs))

/-! ## Texts and comments -/

theorem placed_toList {kept : Bool} (hkept : d.keepsBlanks = kept) (value : String) :
    String.ofList (d.placed value.toList) = shortText kept value := by
  rw [placed, shortText, hkept]
  split
  · rfl
  · exact String.ofList_toList

theorem foldl_add_text (d : Draft) {pieces : List (List Char)} (h : pieces ≠ []) :
    (pieces.map Token.text).foldl add d
      = { d with pending := some (d.pending.getD [] ++ pieces.flatten) } := by
  induction pieces generalizing d with
  | nil => exact absurd rfl h
  | cons piece pieces ih =>
    rw [List.map_cons, List.foldl_cons, add, read]
    cases pieces with
    | nil => simp
    | cons next pieces =>
      rw [ih _ (List.cons_ne_nil next pieces)]
      simp

theorem flush_text {kept : Bool} (hkept : d.keepsBlanks = kept) (hnone : d.pending = none)
    (value : String) : Draft.flush { d with pending := some value.toList } =
      d.append (.text (shortText kept value)) := by
  have hplaced := placed_toList (d := { d with pending := some value.toList }) hkept value
  have hd : { d with pending := none } = d := by rw [← hnone]
  rw [flush, flushAs]
  simp only [hplaced, hd]

theorem add_comment {kept : Bool} (hkept : d.keepsBlanks = kept) (data : String) :
    d.add (.comment data.toList) = d.flush.append (.comment (shortText kept data)) := by
  have hread : d.flush.read data.toList = { d.flush with pending := some data.toList } := by
    rw [read, pending_flush]
    rfl
  have hplaced := placed_toList (d := { d.flush with pending := some data.toList })
    ((keepsBlanks_flush d).trans hkept) data
  have hd : { d.flush with pending := none } = d.flush := by rw [← pending_flush d]
  rw [add, flushAs, hread]
  simp only [hplaced, hd]

/-! ## Trees -/

/-- What stays the same between the nodes of one parent: no end tag of an empty element is awaited,
    and blank text is kept or not. -/
structure Between (kept : Bool) (d : Draft) : Prop where
  closedEmpty : d.closedEmpty = []
  keepsBlanks : d.keepsBlanks = kept

theorem Between.flush_append {kept : Bool} (h : Between kept d) (n : Node) :
    Between kept (d.flush.append n) := by
  refine ⟨?_, ?_⟩
  · rw [closedEmpty_append, closedEmpty_flush, h.closedEmpty]
  · rw [keepsBlanks_append, keepsBlanks_flush, h.keepsBlanks]

/-- The tokens of an element add it to the draft, if the tokens below it add its children. -/
theorem foldl_add_element {kept : Bool} {tag : String} (attrs : Attributes) {below : List Token}
    {children : List Node} (h : Between kept d) (hempty : tag ∈ emptyElements → children = [])
    (hnone : children = [] → below = [])
    (hbelow : Between (kept || keepsBlankText tag) (d.enter tag attrs) →
      (below.foldl add (d.enter tag attrs)).closedEmpty = [] ∧
      (below.foldl add (d.enter tag attrs)).flush = (d.enter tag attrs).appendAll children) :
    (Token.opening tag attrs :: (below ++ [.closing tag])).foldl add d
      = d.flush.append (.element tag attrs children none) := by
  rw [List.foldl_cons, List.foldl_append, List.foldl_cons, List.foldl_nil]
  by_cases htag : tag ∈ emptyElements
  · -- it is closed at once, and its end tag is the one that was still awaited
    obtain rfl := hempty htag
    rw [hnone rfl, List.foldl_nil, add, if_pos htag, close_enter, add, if_pos List.mem_cons_self]
    simp only [List.erase_cons_head]
  · have hopen : d.add (.opening tag attrs) = d.enter tag attrs := by rw [add, if_neg htag]
    obtain ⟨hclosed, hflush⟩ := hbelow ⟨(closedEmpty_enter d tag attrs).trans h.closedEmpty, by
      rw [keepsBlanks_enter, h.keepsBlanks]⟩
    rw [hopen, add, if_neg (by simp [hclosed])]
    exact close_of_flush hflush

/-- Tokens that spell nodes add these nodes to the innermost open element, with blank text shortened. A
    text at the front must not meet text that is still to be placed. -/
theorem foldl_add_of_spells {ts : List Token} {ns : List Node} (h : Spells ts ns) {kept : Bool}
    (hd : Between kept d) (hfront : d.pending = none ∨ ∀ n ∈ ns.head?, isText n = false) :
    (ts.foldl add d).closedEmpty = [] ∧
      (ts.foldl add d).flush = d.flush.appendAll (shortenedAll kept ns) := by
  induction h generalizing d kept with
  | nil => exact ⟨hd.closedEmpty, rfl⟩
  | @text pieces value ts ns nonempty flat apart later ih =>
    have hnone : d.pending = none := hfront.resolve_right fun hne => by
      have := hne _ rfl
      cases this
    have hread : (pieces.map Token.text).foldl add d = { d with pending := some value.toList } := by
      rw [foldl_add_text d nonempty, hnone, flat]
      rfl
    rw [List.foldl_append, hread, shortenedAll, appendAll_cons, flush_of_pending_none hnone, shortened,
      ← flush_text hd.keepsBlanks hnone]
    exact ih ⟨hd.closedEmpty, hd.keepsBlanks⟩ (Or.inr apart)
  | @comment data ts ns later ih =>
    have hlater := ih (hd.flush_append (.comment (shortText kept data))) (Or.inl (pending_flush_append d _))
    rw [List.foldl_cons, add_comment hd.keepsBlanks, shortenedAll, appendAll_cons, shortened]
    rwa [flush_flush_append] at hlater
  | @selfClosing tag attrs ts ns later ih =>
    have hlater := ih (hd.flush_append (.element tag attrs [] none)) (Or.inl (pending_flush_append d _))
    rw [List.foldl_cons, add, close_enter, shortenedAll, appendAll_cons, shortened, shortenedAll]
    rwa [flush_flush_append] at hlater
  | @element tag attrs below ts children ns empty inner later ihInner ihLater =>
    have hlater := ihLater (hd.flush_append (shortened kept (.element tag attrs children none)))
      (Or.inl (pending_flush_append d _))
    have hempty : tag ∈ emptyElements → shortenedAll (kept || keepsBlankText tag) children = [] := by
      intro htag
      rw [empty htag]
      rfl
    have helement := foldl_add_element attrs hd hempty
      (fun hnil => Spells.eq_nil (shortenedAll_eq_nil hnil ▸ inner))
      (fun henter => by
        have := ihInner henter (Or.inl (pending_enter d tag attrs))
        rwa [flush_of_pending_none (pending_enter d tag attrs)] at this)
    have hsplit : Token.opening tag attrs :: (below ++ .closing tag :: ts)
        = (Token.opening tag attrs :: (below ++ [.closing tag])) ++ ts := by simp
    rw [hsplit, List.foldl_append, helement, shortenedAll, appendAll_cons]
    rwa [flush_flush_append] at hlater

end Draft

/-- Tokens that spell nodes build the document that consists of them, with blank text shortened. -/
theorem fragment_eq_shortenedAll {ts : List Token} {ns : List Node} (h : Spells ts ns) :
    (Document.ofTokens ts).fragment = shortenedAll false ns := by
  have hbuilt := (Draft.foldl_add_of_spells (d := {}) h ⟨rfl, rfl⟩ (Or.inl rfl)).2
  have hstart : ({} : Draft).flush = {} := Draft.flush_of_pending_none rfl
  rw [hstart, Draft.appendAll_of_opened_nil rfl] at hbuilt
  have htop : (ts.foldl Draft.add {}).finish
      = { ({} : Draft) with top := (shortenedAll false ns).reverse ++ [] } := by
    rw [Draft.finish, hbuilt]
    rfl
  rw [Document.ofTokens, htop]
  simp

/-- Tokens that spell canonical nodes build the document that consists of them. -/
theorem fragment_of_spells {ts : List Token} {ns : List Node} (h : Spells ts ns)
    (hcanonical : CanonicalBelow false ns) : (Document.ofTokens ts).fragment = ns := by
  rw [fragment_eq_shortenedAll h, shortenedAll_of_canonical hcanonical]

end MarkupCleaner.Markup
