import Mathlib.Tactic.Common
import MarkupCleaner.Output.Html
import MarkupCleaner.Proofs.Markup.Building
import MarkupCleaner.Proofs.Tree.Nodes

/-!
# What written trees are read as

The HTML of a tree is read node by node if its names can be read back and no two of its texts stand side
by side. The nodes that come back are nearly those that were written: attributes have their HTML names,
only the first one of a name is left, and what was escaped below an element of raw text stays escaped.
-/

namespace MarkupCleaner.Output

open Markup Node

/-! ## Attributes -/

/-- An attribute under the name with which it is written. -/
def htmlForm (a : Attribute) : Attribute := ⟨htmlName a.name, a.value⟩

/-- The attributes that are read from written ones. -/
def rereadAttributes (attrs : Attributes) : Attributes := firstOfEachName (attrs.map htmlForm)

theorem htmlName_cases (name : String) : htmlName name = name ∨
    (name = "classname" ∧ htmlName name = "class") ∨ (name = "htmlfor" ∧ htmlName name = "for") := by
  unfold htmlName
  split
  · exact Or.inr (Or.inl ⟨rfl, rfl⟩)
  · exact Or.inr (Or.inr ⟨rfl, rfl⟩)
  · exact Or.inl rfl

theorem readableName_htmlName {name : String} (h : ReadableName name.toList) :
    ReadableName (htmlName name).toList := by
  rcases htmlName_cases name with heq | ⟨-, heq⟩ | ⟨-, heq⟩
  · rwa [heq]
  · rw [heq]
    exact ⟨⟨'c', "lass".toList, rfl, by decide, by simp [isAttributeNameChar, Text.isBlankChar]⟩, by decide⟩
  · rw [heq]
    exact ⟨⟨'f', "or".toList, rfl, by decide, by simp [isAttributeNameChar, Text.isBlankChar]⟩, by decide⟩

theorem forall_readableName_htmlForm {attrs : Attributes}
    (h : ∀ a ∈ attrs, ReadableName a.name.toList) :
    ∀ a ∈ attrs.map htmlForm, ReadableName a.name.toList := by
  intro a ha
  obtain ⟨b, hb, rfl⟩ := List.mem_map.1 ha
  exact readableName_htmlName (h b hb)

theorem toList_htmlAttribute {a : Attribute} (h : ReadableName a.name.toList) :
    (htmlAttribute a).toList = attributeText (htmlForm a) := by
  have hne : htmlName a.name ≠ "" := by
    intro heq
    obtain ⟨c, cs, hname, -⟩ := (readableName_htmlName h).starts
    rw [heq] at hname
    cases hname
  rw [htmlAttribute, if_neg hne]
  simp [attributeText, htmlForm]

/-- The start tag of an element up to its end, its attributes included. -/
theorem toList_start {attrs : Attributes} (h : ∀ a ∈ attrs, ReadableName a.name.toList) (tag : String) :
    ("<" ++ tag ++ String.join (attrs.map htmlAttribute)).toList
      = '<' :: tag.toList ++ (attrs.map htmlForm).flatMap attributeText := by
  have hattrs : (attrs.map htmlAttribute).flatMap String.toList
      = (attrs.map htmlForm).flatMap attributeText := by
    rw [List.flatMap_map, List.flatMap_map]
    exact List.flatMap_congr fun a ha => toList_htmlAttribute (h a ha)
  rw [String.toList_append, String.toList_append, String.toList_join, hattrs]
  rfl

/-! ## Written nodes -/

theorem toList_render_void {tag : String} {attrs : Attributes}
    (h : ∀ a ∈ attrs, ReadableName a.name.toList) (hvoid : voidElements.contains tag = true)
    (children : List Node) (ns : Option String) :
    (render html (.element tag attrs children ns)).toList
      = startTagText tag (attrs.map htmlForm) true := by
  rw [render]
  rw [if_pos hvoid, String.toList_append, html, toList_start h]
  rfl

theorem toList_render_element {tag : String} {attrs : Attributes}
    (h : ∀ a ∈ attrs, ReadableName a.name.toList) (hvoid : voidElements.contains tag = false)
    (children : List Node) (ns : Option String) :
    (render html (.element tag attrs children ns)).toList
      = startTagText tag (attrs.map htmlForm) false
        ++ ((renderAll html children).toList ++ endTagText tag) := by
  rw [render]
  rw [if_neg (ne_true_of_eq_false hvoid)]
  simp only [String.toList_append]
  have hstart := toList_start h tag
  simp only [String.toList_append] at hstart
  rw [html, hstart]
  simp [startTagText, endTagText, tagEnd]

theorem toList_render_comment (data : String) :
    (render html (.comment data)).toList = commentText data.toList := by
  simp [render, html, commentText]

theorem mem_emptyElements_of_void {tag : String} (h : voidElements.contains tag = true) :
    tag ∈ emptyElements := by
  have hsub : ∀ t ∈ voidElements, t ∈ emptyElements := by decide
  exact hsub tag (List.contains_iff_mem.1 h)

/-- What is written after a text starts markup, if no other text follows it. -/
theorem startsMarkup_renderAll {ns : List Node} {rest : List Char} (hrest : StartsMarkup rest)
    (h : ∀ n ∈ ns.head?, isText n = false) : StartsMarkup ((renderAll html ns).toList ++ rest) := by
  cases ns with
  | nil => exact hrest
  | cons n ns =>
    have hn : ∃ cs, (render html n).toList = '<' :: cs := by
      cases n with
      | text value => cases h _ rfl
      | comment data => exact ⟨_, toList_render_comment data⟩
      | element tag attrs children ns =>
        rw [render]
        split <;> simp
    obtain ⟨cs, hcs⟩ := hn
    intro c hc
    rw [renderAll, String.toList_append, hcs] at hc
    simpa [eq_comm] using hc

/-! ## Legible trees -/

mutual

/-- A subtree whose HTML is read node by node. -/
def Legible : Node → Prop
  | .element tag attrs children _ =>
    ReadableTag tag.toList ∧ (∀ a ∈ attrs, ReadableName a.name.toList) ∧
      (tag ∈ emptyElements → children = []) ∧
      (isRawTextElement tag = true → ∀ n ∈ children, isText n = true) ∧ LegibleBelow children
  | .text value => value ≠ ""
  | .comment data => EndsNoComment data.toList

/-- Subtrees side by side whose HTML is read node by node, no text next to another. -/
def LegibleBelow : List Node → Prop
  | [] => True
  | n :: ns => Legible n ∧ (isText n = true → ∀ m ∈ ns.head?, isText m = false) ∧ LegibleBelow ns

end

/-- Texts side by side of which none is next to another. -/
theorem LegibleBelow.eq_singleton {ns : List Node} (h : LegibleBelow ns)
    (htext : ∀ n ∈ ns, isText n = true) : ns = [] ∨ ∃ value, ns = [.text value] ∧ value ≠ "" := by
  cases ns with
  | nil => exact Or.inl rfl
  | cons n ns =>
    obtain ⟨hn, hnext, -⟩ := h
    rw [List.forall_mem_cons] at htext
    cases ns with
    | nil =>
      cases n with
      | text value => exact Or.inr ⟨value, rfl, hn⟩
      | element tag attrs children space => cases htext.1
      | comment data => cases htext.1
    | cons m ns =>
      have hm := hnext htext.1 m rfl
      rw [htext.2 m List.mem_cons_self] at hm
      cases hm

/-- A node that its end tag names. -/
def IsNamed : Node → Prop := OnElement fun tag _ => isMisnamed tag.toList = false

instance (n : Node) : Decidable (IsNamed n) := inferInstanceAs (Decidable (OnElement _ n))

mutual

/-- The subtree that is read from a written one before blank text is shortened; `raw` tells whether it is
    right below an element of raw text. -/
def reread (raw : Bool) : Node → Node
  | .element tag attrs children _ =>
    .element tag (rereadAttributes attrs) (rereadAll (isRawTextElement tag) children) none
  | .text value => .text (if raw then escapeText value else value)
  | .comment data => .comment data

/-- The subtrees that are read from written ones. -/
def rereadAll (raw : Bool) : List Node → List Node
  | [] => []
  | n :: ns => reread raw n :: rereadAll raw ns

end

@[simp] theorem isText_reread (raw : Bool) (n : Node) : isText (reread raw n) = isText n := by
  cases n <;> rfl

theorem head_rereadAll {raw : Bool} {ns : List Node} (h : ∀ n ∈ ns.head?, isText n = false) :
    ∀ n ∈ (rereadAll raw ns).head?, isText n = false := by
  cases ns with
  | nil => exact h
  | cons n ns =>
    rintro _ ⟨⟩
    rw [isText_reread]
    exact h n rfl

/-! ## Reading -/

/-- A written element of raw text is read with its text as it was written. -/
theorem reads_rawElement {tag : String} {attrs : Attributes} (htag : ReadableTag tag.toList)
    (hraw : isRawTextElement tag = true) (hnames : ∀ a ∈ attrs, ReadableName a.name.toList)
    {children : List Node} (h : children = [] ∨ ∃ value, children = [.text value] ∧ value ≠ "")
    (rest : List Char) : ∃ below, Spells below (rereadAll true children) ∧
      Reads (startTagText tag attrs false ++ ((renderAll html children).toList ++ endTagText tag))
        (.opening tag (firstOfEachName attrs) :: (below ++ [.closing tag])) rest := by
  have hmode : modeAfter tag false = .rawText tag := by rw [modeAfter, hraw]; rfl
  have hend := reads_rawTextEnd hraw rest
  have hstart := reads_startTag htag hnames false
    (((renderAll html children).toList ++ endTagText tag) ++ rest)
  rw [hmode] at hstart
  rcases h with rfl | ⟨value, rfl, hne⟩
  · exact ⟨[], .nil, hstart.append hend⟩
  · have hchars : escapedText value.toList ≠ [] := by
      rw [← toList_escapeText]
      exact fun hnil => escapeText_ne_empty hne (String.toList_eq_nil_iff.1 hnil)
    have htext : (renderAll html [.text value]).toList = escapedText value.toList := by
      simp [renderAll, render]
    have hread := reads_rawText hraw hchars (bracket_notMem_escapedText value.toList) rest
    have hflat : [escapedText value.toList].flatten = (escapeText value).toList := by
      simp [toList_escapeText]
    refine ⟨[escapedText value.toList].map .text ++ [], ?_, ?_⟩
    · exact .text (by simp) hflat (by simp [rereadAll]) .nil
    · rw [htext] at hstart ⊢
      exact hstart.append (hread.append hend)

/-- A written element of another kind is read with the nodes inside it as they are read. -/
theorem exists_reads_plainElement {tag : String} {attrs : Attributes} {children : List Node}
    {below : List Token} {rest : List Char} (htag : ReadableTag tag.toList)
    (hraw : isRawTextElement tag = false) (hnames : ∀ a ∈ attrs, ReadableName a.name.toList)
    (hempty : tag ∈ emptyElements → children = [])
    (hbelow : Reads (renderAll html children).toList below (endTagText tag ++ rest)) :
    ∃ ts, Reads (startTagText tag attrs false ++ ((renderAll html children).toList ++ endTagText tag)) ts rest ∧
      (isMisnamed tag.toList = false → Spells below (rereadAll false children) → ∀ us ns, Spells us ns →
        Spells (ts ++ us)
          (.element tag (firstOfEachName attrs) (rereadAll false children) none :: ns)) := by
  have hmode : modeAfter tag false = .markup := by rw [modeAfter, hraw]; rfl
  obtain ⟨closed, hend, hnamed⟩ := exists_reads_endTag htag rest
  have hstart := reads_startTag htag hnames false ((renderAll html children).toList ++ endTagText tag ++ rest)
  rw [hmode] at hstart
  refine ⟨.opening tag (firstOfEachName attrs) :: (below ++ [.closing closed]),
    hstart.append (hbelow.append hend), fun hself hspells us ns hs => ?_⟩
  rw [hnamed hself, List.cons_append, List.append_assoc]
  refine .element (fun hmem => ?_) hspells hs
  rw [hempty hmem]
  rfl

mutual

/-- A written node is read as tokens that spell the node that comes back, in front of the tokens for the
    nodes after it, if every end tag names its element. -/
theorem reads_legible : ∀ n : Node, Legible n → ∀ rest : List Char, (isText n = true → StartsMarkup rest) →
    ∃ ts, Reads (render html n).toList ts rest ∧ ((∀ m ∈ n.nodes, IsNamed m) →
      ∀ us ns, (isText n = true → ∀ m ∈ ns.head?, isText m = false) → Spells us ns →
        Spells (ts ++ us) (reread false n :: ns))
  | .element tag attrs children space, h, rest, _ => by
    obtain ⟨htag, hnames, hempty, hraw, hchildren⟩ := h
    have hwritten := forall_readableName_htmlForm hnames
    by_cases hvoid : voidElements.contains tag = true
    · refine ⟨[.selfClosing tag (rereadAttributes attrs)], ?_, fun _ us ns _ hs => ?_⟩
      · rw [toList_render_void hnames hvoid]
        exact reads_startTag htag hwritten true rest
      · rw [reread, hempty (mem_emptyElements_of_void hvoid)]
        exact .selfClosing hs
    · rw [toList_render_element hnames (by simpa using hvoid)]
      by_cases hrawTag : isRawTextElement tag = true
      · obtain ⟨below, hspells, hreads⟩ := reads_rawElement htag hrawTag hwritten
          (hchildren.eq_singleton (hraw hrawTag)) rest
        refine ⟨_, hreads, fun _ us ns _ hs => ?_⟩
        rw [List.cons_append, List.append_assoc, reread, hrawTag]
        refine .element (fun hmem => ?_) hspells hs
        rw [hempty hmem]
        rfl
      · have hplain : isRawTextElement tag = false := eq_false_of_ne_true hrawTag
        obtain ⟨below, hbelow, hspells⟩ := reads_legibleBelow children hchildren (endTagText tag ++ rest)
          fun c hc => by simpa [endTagText, eq_comm] using hc
        obtain ⟨ts, hreads, hspell⟩ := exists_reads_plainElement htag hplain hwritten hempty hbelow
        refine ⟨ts, hreads, fun hall us ns _ hs => ?_⟩
        obtain ⟨hself, hinside⟩ := forall_nodes_element.1 hall
        rw [reread, hplain]
        exact hspell hself (hspells hinside) us ns hs
  | .text value, h, rest, hrest => by
    obtain ⟨pieces, hne, hflat, hreads⟩ := reads_escapedText (hrest rfl) value.toList
    refine ⟨pieces.map .text, ?_, fun _ us ns hns hs => .text (hne ?_) hflat (hns rfl) hs⟩
    · rw [render, toList_escapeText]
      exact hreads
    · intro hnil
      exact h (String.toList_eq_nil_iff.1 hnil)
  | .comment data, h, rest, _ => by
    refine ⟨[.comment data.toList], ?_, fun _ us ns _ hs => .comment hs⟩
    rw [toList_render_comment]
    exact reads_comment h rest

/-- Written nodes in front of markup are read as tokens that spell the nodes that come back, if every end
    tag names its element. -/
theorem reads_legibleBelow : ∀ ns : List Node, LegibleBelow ns → ∀ rest : List Char, StartsMarkup rest →
    ∃ ts, Reads (renderAll html ns).toList ts rest ∧
      ((∀ n ∈ nodesAll ns, IsNamed n) → Spells ts (rereadAll false ns))
  | [], _, rest, _ => ⟨[], reads_nil rest, fun _ => .nil⟩
  | n :: ns, h, rest, hrest => by
    obtain ⟨hn, hnext, hns⟩ := h
    obtain ⟨us, hreads, hspells⟩ := reads_legibleBelow ns hns rest hrest
    obtain ⟨ts, hread, hspell⟩ := reads_legible n hn ((renderAll html ns).toList ++ rest)
      fun htext => startsMarkup_renderAll hrest (hnext htext)
    refine ⟨ts ++ us, ?_, fun hnamed => ?_⟩
    · rw [renderAll, String.toList_append]
      exact hread.append hreads
    · obtain ⟨hnamedN, hnamedNs⟩ := forall_nodesAll_cons.1 hnamed
      exact hspell hnamedN us _ (fun htext => head_rereadAll (hnext htext)) (hspells hnamedNs)

end

end MarkupCleaner.Output
