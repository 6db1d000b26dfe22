import MarkupCleaner.Proofs.Markup.Parsed
import MarkupCleaner.Proofs.Output.Written

/-!
# Texts side by side

A declaration between two texts leaves no node, so that a parsed tree can have texts side by side. In its
HTML they are one text. A parsed tree whose adjacent texts are joined has the same HTML, and its HTML is
read node by node.
-/

namespace MarkupCleaner.Output

open Markup Node

/-! ## Joining -/

/-- Puts a node before others; a text is joined with the text that follows it, and an empty one is
    dropped. -/
def putBefore : Node → List Node → List Node
  | .text value, .text next :: ns => .text (value ++ next) :: ns
  | .text value, ns => if value = "" then ns else .text value :: ns
  | n, ns => n :: ns

mutual

/-- A subtree with adjacent texts below it joined. -/
def joined : Node → Node
  | .element tag attrs children ns => .element tag attrs (joinedAll children) ns
  | .text value => .text value
  | .comment data => .comment data

/-- Several subtrees with adjacent texts joined, here and below. -/
def joinedAll : List Node → List Node
  | [] => []
  | n :: ns => putBefore (joined n) (joinedAll ns)

end

/-- What a node put before others gives: it is joined with the text that follows, dropped as an empty
    text, or put before them. -/
theorem putBefore_induction {motive : List Node → Prop} {n : Node} {ns : List Node}
    (hjoin : ∀ value next ms, n = .text value → ns = .text next :: ms → motive (.text (value ++ next) :: ms))
    (hdrop : n = .text "" → motive ns)
    (hput : (isText n = true → n ≠ .text "" ∧ ∀ m ∈ ns.head?, isText m = false) → motive (n :: ns)) :
    motive (putBefore n ns) := by
  cases n with
  | text value =>
    have hplain : (∀ m ∈ ns.head?, isText m = false) →
        putBefore (.text value) ns = (if value = "" then ns else .text value :: ns) →
        motive (putBefore (.text value) ns) := by
      intro hns heq
      rw [heq]
      split
      · next hvalue => exact hdrop (congrArg Node.text hvalue)
      · next hvalue => exact hput fun _ => ⟨fun h => hvalue (Node.text.inj h), hns⟩
    cases ns with
    | nil => exact hplain (fun m hm => nomatch hm) rfl
    | cons m ms =>
      cases m with
      | text next => exact hjoin value next ms rfl rfl
      | element tag attrs children space => exact hplain (by rintro _ ⟨⟩; rfl) rfl
      | comment data => exact hplain (by rintro _ ⟨⟩; rfl) rfl
  | element tag attrs children space => exact hput fun h => nomatch h
  | comment data => exact hput fun h => nomatch h

/-! ## The HTML of joined texts -/

theorem escapeText_append (value next : String) :
    escapeText (value ++ next) = escapeText value ++ escapeText next := by
  rw [← String.toList_inj]
  simp [escapedText_append]

theorem renderAll_putBefore (n : Node) (ns : List Node) :
    renderAll html (putBefore n ns) = render html n ++ renderAll html ns := by
  refine putBefore_induction (motive := fun ms => renderAll html ms = _) ?_ ?_ ?_
  · rintro value next ms rfl rfl
    simp only [renderAll, render, escapeText_append, String.append_assoc]
  · rintro rfl
    exact String.empty_append.symm
  · exact fun _ => rfl

mutual

theorem render_joined : ∀ n : Node, render html (joined n) = render html n
  | .element tag attrs children space => by
    rw [joined, render, render, renderAll_joinedAll children]
  | .text value => rfl
  | .comment data => rfl

/-- Joined texts have the same HTML. -/
theorem renderAll_joinedAll : ∀ ns : List Node, renderAll html (joinedAll ns) = renderAll html ns
  | [] => rfl
  | n :: ns => by
    rw [joinedAll, renderAll_putBefore, render_joined n, renderAll_joinedAll ns, renderAll]

end

/-! ## Parsed trees -/

/-- What the nodes of a parsed tree have: names that can be read back, nothing below an element that never
    has content and nothing but texts in raw text, only spaces and line feeds in blank text that is not
    kept, and no end of a comment within a comment. -/
def IsWritable (kept : Bool) : Node → Prop
  | .element tag attrs children _ =>
    ReadableTag tag.toList ∧ (∀ a ∈ attrs, ReadableName a.name.toList) ∧
      (tag ∈ emptyElements → children = []) ∧ RawBelow tag children
  | .text value =>
    kept = false → value.toList.all isAsciiBlank = true → ∀ c ∈ value.toList, c = ' ' ∨ c = '\n'
  | .comment data => EndsNoComment data.toList ∧ shortText kept data = data

theorem endsNoComment_shortText {data : String} (h : EndsNoComment data.toList) (kept : Bool) :
    EndsNoComment (shortText kept data).toList := by
  rcases shortText_cases kept data with heq | ⟨-, heq | heq⟩
  · rwa [heq]
  · rw [heq]
    decide
  · rw [heq]
    decide

theorem holdsWhenPlaced_isWritable : HoldsWhenPlaced IsWritable := by
  refine ⟨fun kept value hkept hblank => ?_, fun kept data hdata => ?_, ?_⟩
  · rcases shortText_cases kept value with heq | ⟨-, heq | heq⟩
    · rw [heq] at hblank ⊢
      rw [shortText, hkept, hblank, if_pos (by decide)] at heq
      rw [← heq, String.toList_ofList, shortBlank]
      split <;> simp
    · rw [heq]
      simp
    · rw [heq]
      simp
  · exact ⟨endsNoComment_shortText hdata kept, shortText_shortText kept data⟩
  · exact fun hletter hstart hempty hraw => ⟨readableTag_of_startTag hletter hstart,
      fun a ha => readableName_of_startTag hstart ha, hempty, hraw⟩

theorem isWritable_of_parseFragment {text : String} {t : Fragment} (h : parseFragment text = .ok t) :
    EverywhereBelow IsWritable false t :=
  everywhereBelow_of_parseFragment holdsWhenPlaced_isWritable h

@[simp] theorem isText_joined (n : Node) : isText (joined n) = isText n := by
  cases n <;> rfl

theorem isText_joinedAll {ns : List Node} (h : ∀ n ∈ ns, isText n = true) :
    ∀ n ∈ joinedAll ns, isText n = true := by
  induction ns with
  | nil => exact List.forall_mem_nil _
  | cons n ns ih =>
    rw [List.forall_mem_cons] at h
    have ih := ih h.2
    refine putBefore_induction (motive := fun ms => ∀ m ∈ ms, isText m = true) ?_ (fun _ => ih) fun _ => ?_
    · intro value next ms _ hms
      rw [hms, List.forall_mem_cons] at ih
      exact List.forall_mem_cons.2 ⟨rfl, ih.2⟩
    · exact List.forall_mem_cons.2 ⟨(isText_joined n).trans h.1, ih⟩

theorem rawBelow_joinedAll {tag : String} {children : List Node} (h : RawBelow tag children) :
    RawBelow tag (joinedAll children) := fun htag => isText_joinedAll (h htag)

mutual

theorem isWritable_joined : ∀ {kept : Bool} {n : Node}, Everywhere IsWritable kept n →
    Everywhere IsWritable kept (joined n)
  | kept, .element tag attrs children space, ⟨⟨htag, hnames, hempty, hraw⟩, hchildren⟩ => by
    refine ⟨⟨htag, hnames, fun hmem => ?_, rawBelow_joinedAll hraw⟩, isWritable_joinedAll hchildren⟩
    rw [hempty hmem]
    rfl
  | kept, .text value, h => h
  | kept, .comment data, h => h

theorem isWritable_joinedAll : ∀ {kept : Bool} {ns : List Node}, EverywhereBelow IsWritable kept ns →
    EverywhereBelow IsWritable kept (joinedAll ns)
  | kept, [], _ => trivial
  | kept, n :: ns, ⟨hn, hns⟩ => by
    have hn := isWritable_joined hn
    have hns := isWritable_joinedAll hns
    refine putBefore_induction (motive := EverywhereBelow IsWritable kept) ?_ (fun _ => hns)
      fun _ => ⟨hn, hns⟩
    intro value next ms hvalue hms
    rw [hvalue] at hn
    rw [hms] at hns
    refine ⟨fun hkept hblank => ?_, hns.2⟩
    rw [String.toList_append, List.all_append, Bool.and_eq_true] at hblank
    rw [String.toList_append]
    exact List.forall_mem_append.2 ⟨hn hkept hblank.1, hns.1 hkept hblank.2⟩

end

mutual

theorem legible_joined : ∀ {kept : Bool} {n : Node}, Everywhere IsWritable kept n →
    isText n = false → Legible (joined n)
  | kept, .element tag attrs children space, ⟨⟨htag, hnames, hempty, hraw⟩, hchildren⟩, _ => by
    refine ⟨htag, hnames, fun hmem => ?_, rawBelow_joinedAll hraw, legibleBelow_joinedAll hchildren⟩
    rw [hempty hmem]
    rfl
  | kept, .comment data, h, _ => h.1

/-- With its texts joined, a parsed tree is read node by node from its HTML. -/
theorem legibleBelow_joinedAll : ∀ {kept : Bool} {ns : List Node}, EverywhereBelow IsWritable kept ns →
    LegibleBelow (joinedAll ns)
  | kept, [], _ => trivial
  | kept, n :: ns, ⟨hn, hns⟩ => by
    have hns := legibleBelow_joinedAll hns
    refine putBefore_induction (motive := LegibleBelow) ?_ (fun _ => hns) fun hput => ?_
    · intro value next ms _ hms
      rw [hms] at hns
      obtain ⟨hnext, happart, hbelow⟩ := hns
      refine ⟨fun hempty => hnext ?_, happart, hbelow⟩
      exact (String.append_eq_empty_iff.1 hempty).2
    · refine ⟨?_, fun htext => (hput htext).2, hns⟩
      cases n with
      | text value => exact fun hempty => (hput rfl).1 (congrArg Node.text hempty)
      | element tag attrs children space => exact legible_joined hn rfl
      | comment data => exact legible_joined hn rfl

end

section

variable {good : String → Attributes → Prop}

mutual

theorem onElement_joined : ∀ {n : Node}, (∀ m ∈ n.nodes, OnElement good m) →
    ∀ m ∈ (joined n).nodes, OnElement good m
  | .element tag attrs children space, h => by
    obtain ⟨hself, hbelow⟩ := forall_nodes_element.1 h
    exact forall_nodes_element.2 ⟨hself, onElement_joinedAll hbelow⟩
  | .text _, h => h
  | .comment _, h => h

/-- Joining texts leaves the tags and the attributes as they are. -/
theorem onElement_joinedAll : ∀ {ns : List Node}, (∀ n ∈ nodesAll ns, OnElement good n) →
    ∀ n ∈ nodesAll (joinedAll ns), OnElement good n
  | [], h => h
  | n :: ns, h => by
    obtain ⟨hn, hns⟩ := forall_nodesAll_cons.1 h
    have hn := onElement_joined hn
    have hns := onElement_joinedAll hns
    refine putBefore_induction (motive := fun ms => ∀ m ∈ nodesAll ms, OnElement good m) ?_ (fun _ => hns)
      fun _ => forall_nodesAll_cons.2 ⟨hn, hns⟩
    intro value next ms _ hms
    rw [hms] at hns
    exact forall_nodesAll_cons.2 ⟨forall_nodes_text.2 trivial, (forall_nodesAll_cons.1 hns).2⟩

end

end

end MarkupCleaner.Output
