import MarkupCleaner.Proofs.Markup.Parsed
import MarkupCleaner.Proofs.Output.RoundTrip

/-!
# Nothing of a parsed document is left out

What is below a void element is not written. In a parsed tree there is nothing below one, so that the
HTML of a parsed tree consists of what is written at every step of a walk over the whole tree.
-/

namespace MarkupCleaner.Output

open Markup Node

/-! ## What is written of a tree -/

mutual

/-- A subtree without what is below a void element. -/
def shown : Node → Node
  | .element tag attrs children space =>
    .element tag attrs (if voidElements.contains tag then [] else shownAll children) space
  | .text value => .text value
  | .comment data => .comment data

/-- Several subtrees without what is below a void element. -/
def shownAll : List Node → List Node
  | [] => []
  | n :: ns => shown n :: shownAll ns

end

/-- A node that has nothing below it if it is a void element. -/
def IsVoidEmpty : Node → Prop
  | .element tag _ children _ => tag ∈ voidElements → children = []
  | .text _ => True
  | .comment _ => True

theorem shown_of_void {tag : String} (hvoid : voidElements.contains tag = true) (attrs : Attributes)
    (children : List Node) (space : Option String) :
    shown (.element tag attrs children space) = .element tag attrs [] space := by
  rw [shown, if_pos hvoid]

theorem shown_of_not_void {tag : String} (hvoid : ¬voidElements.contains tag = true) (attrs : Attributes)
    (children : List Node) (space : Option String) :
    shown (.element tag attrs children space) = .element tag attrs (shownAll children) space := by
  rw [shown, if_neg hvoid]

mutual

/-- What does not look at children still holds of the nodes that are written. -/
theorem of_mem_shown {good : Node → Prop} (hgood : IgnoresChildren good) :
    ∀ n : Node, (∀ m ∈ n.nodes, good m) → ∀ m ∈ (shown n).nodes, good m
  | .element tag attrs children space, h => by
    obtain ⟨hself, hbelow⟩ := forall_nodes_element.1 h
    by_cases hvoid : voidElements.contains tag = true
    · rw [shown_of_void hvoid]
      exact forall_nodes_element.2 ⟨hgood hself, List.forall_mem_nil _⟩
    · rw [shown_of_not_void hvoid]
      exact forall_nodes_element.2 ⟨hgood hself, of_mem_shownAll hgood children hbelow⟩
  | .text value, h => h
  | .comment data, h => h

theorem of_mem_shownAll {good : Node → Prop} (hgood : IgnoresChildren good) :
    ∀ ns : List Node, (∀ m ∈ nodesAll ns, good m) → ∀ m ∈ nodesAll (shownAll ns), good m
  | [], h => h
  | n :: ns, h => by
    obtain ⟨hn, hns⟩ := forall_nodesAll_cons.1 h
    exact forall_nodesAll_cons.2 ⟨of_mem_shown hgood n hn, of_mem_shownAll hgood ns hns⟩

end

mutual

theorem isVoidEmpty_of_mem_shown : ∀ n : Node, ∀ m ∈ (shown n).nodes, IsVoidEmpty m
  | .element tag attrs children space => by
    by_cases hvoid : voidElements.contains tag = true
    · rw [shown_of_void hvoid]
      exact forall_nodes_element.2 ⟨fun _ => rfl, List.forall_mem_nil _⟩
    · rw [shown_of_not_void hvoid]
      refine forall_nodes_element.2 ⟨fun hmem => ?_, isVoidEmpty_of_mem_shownAll children⟩
      exact absurd (List.contains_iff_mem.2 hmem) hvoid
  | .text value => forall_nodes_text.2 trivial
  | .comment data => forall_nodes_comment.2 trivial

/-- Nothing that is written is below a void element. -/
theorem isVoidEmpty_of_mem_shownAll : ∀ ns : List Node, ∀ m ∈ nodesAll (shownAll ns), IsVoidEmpty m
  | [] => List.forall_mem_nil _
  | n :: ns => forall_nodesAll_cons.2 ⟨isVoidEmpty_of_mem_shown n, isVoidEmpty_of_mem_shownAll ns⟩

end

mutual

theorem shown_eq_self : ∀ n : Node, (∀ m ∈ n.nodes, IsVoidEmpty m) → shown n = n
  | .element tag attrs children space, h => by
    obtain ⟨hempty, hbelow⟩ := forall_nodes_element.1 h
    by_cases hvoid : voidElements.contains tag = true
    · rw [shown_of_void hvoid, hempty (List.contains_iff_mem.1 hvoid)]
    · rw [shown_of_not_void hvoid, shownAll_eq_self children hbelow]
  | .text value, _ => rfl
  | .comment data, _ => rfl

theorem shownAll_eq_self : ∀ ns : List Node, (∀ m ∈ nodesAll ns, IsVoidEmpty m) → shownAll ns = ns
  | [], _ => rfl
  | n :: ns, h => by
    obtain ⟨hn, hns⟩ := forall_nodesAll_cons.1 h
    rw [shownAll, shown_eq_self n hn, shownAll_eq_self ns hns]

end

/-- All of a tree is written exactly if its void elements are empty. -/
theorem shownAll_eq_self_iff {ns : List Node} : shownAll ns = ns ↔ ∀ n ∈ nodesAll ns, IsVoidEmpty n := by
  refine ⟨fun h => ?_, shownAll_eq_self ns⟩
  have hempty := isVoidEmpty_of_mem_shownAll ns
  rwa [h] at hempty

/-! ## The walk over a tree -/

/-- A step of the walk over a tree: an element is entered and left, a text or a comment is passed. -/
inductive Visit where
  | enter (tag : String) (attrs : Attributes)
  | leave (tag : String)
  | text (value : String)
  | comment (data : String)
deriving DecidableEq, Repr

namespace Visit

/-- What is written at a step: a tag, or all of a text or a comment. -/
def written : Visit → String
  | enter tag attrs =>
    "<" ++ tag ++ String.join (attrs.map htmlAttribute)
      ++ if voidElements.contains tag then " />" else ">"
  | leave tag => if voidElements.contains tag then "" else "</" ++ tag ++ ">"
  | text value => escapeText value
  | comment data => "<!--" ++ data ++ "-->"

/-- The text or the comment that is passed. -/
def leaf? : Visit → Option Node
  | enter .. => none
  | leave _ => none
  | text value => some (.text value)
  | comment data => some (.comment data)

end Visit

mutual

/-- The walk over a subtree. -/
def visits : Node → List Visit
  | .element tag attrs children _ => .enter tag attrs :: (visitsAll children ++ [.leave tag])
  | .text value => [.text value]
  | .comment data => [.comment data]

/-- The walk over several subtrees, one after the other. -/
def visitsAll : List Node → List Visit
  | [] => []
  | n :: ns => visits n ++ visitsAll ns

end

mutual

/-- The walk passes every text and every comment once, in document order. -/
theorem filterMap_leaf_visits : ∀ n : Node,
    (visits n).filterMap Visit.leaf? = n.nodes.filter fun m => !m.isElement
  | .element tag attrs children ns => by
    have ih := filterMap_leaf_visitsAll children
    rw [visits, nodes, List.filterMap_cons_none rfl, List.filterMap_append, ih,
      List.filter_cons_of_neg (by simp [isElement])]
    exact List.append_nil _
  | .text value => rfl
  | .comment data => rfl

theorem filterMap_leaf_visitsAll : ∀ ns : List Node,
    (visitsAll ns).filterMap Visit.leaf? = (nodesAll ns).filter fun m => !m.isElement
  | [] => rfl
  | n :: ns => by
    rw [visitsAll, nodesAll, List.filterMap_append, List.filter_append, filterMap_leaf_visits n,
      filterMap_leaf_visitsAll ns]

end

/-- What is written at the steps of a walk. -/
def writtenAt (vs : List Visit) : String := String.join (vs.map Visit.written)

theorem writtenAt_cons (v : Visit) (vs : List Visit) :
    writtenAt (v :: vs) = v.written ++ writtenAt vs := String.join_cons

theorem writtenAt_append (vs ws : List Visit) :
    writtenAt (vs ++ ws) = writtenAt vs ++ writtenAt ws := by
  rw [writtenAt, List.map_append, String.join_append]
  rfl

theorem writtenAt_singleton (v : Visit) : writtenAt [v] = v.written := by
  rw [writtenAt_cons]
  exact String.append_empty

mutual

theorem render_eq_writtenAt : ∀ n : Node, render html n = writtenAt (visits (shown n))
  | .element tag attrs children space => by
    by_cases hvoid : voidElements.contains tag = true
    · rw [shown_of_void hvoid, visits, visitsAll, List.nil_append, writtenAt_cons, writtenAt_singleton,
        Visit.written, Visit.written, if_pos hvoid, if_pos hvoid, render, if_pos hvoid]
      simp [html]
    · rw [shown_of_not_void hvoid, visits, writtenAt_cons, writtenAt_append, writtenAt_singleton,
        ← renderAll_eq_writtenAt children, Visit.written, Visit.written, if_neg hvoid, if_neg hvoid, render,
        if_neg hvoid]
      simp [html, String.append_assoc]
  | .text value => (writtenAt_singleton (.text value)).symm
  | .comment data => (writtenAt_singleton (.comment data)).symm

/-- The HTML of a tree is what a walk over all of it writes, but for what is below a void element. -/
theorem renderAll_eq_writtenAt : ∀ ns : List Node, renderAll html ns = writtenAt (visitsAll (shownAll ns))
  | [] => rfl
  | n :: ns => by
    rw [renderAll, shownAll, visitsAll, writtenAt_append, render_eq_writtenAt n, renderAll_eq_writtenAt ns]

end

/-- Void elements are among the elements that never have content. -/
theorem isVoidEmpty_of_parseFragment {text : String} {t : Fragment} (h : parseFragment text = .ok t) :
    ∀ n ∈ nodesAll t, IsVoidEmpty n :=
  forall_nodesAll_of_parseFragment (fun _ => trivial) (fun _ => trivial)
    (fun _ hempty hvoid => hempty (mem_emptyElements_of_void (List.contains_iff_mem.2 hvoid))) h

/-- In a parsed tree the void elements are empty. Its HTML is what a walk over the whole tree writes,
    and the walk passes every text and every comment of the tree once, in document order. -/
theorem toHtml_of_parseFragment {text : String} {t : Fragment} (h : parseFragment text = .ok t) :
    (∀ n ∈ nodesAll t, IsVoidEmpty n) ∧
      toHtml t = String.join ((visitsAll t).map Visit.written) ∧
      (visitsAll t).filterMap Visit.leaf? = (nodesAll t).filter fun n => !n.isElement := by
  have hvoid := isVoidEmpty_of_parseFragment h
  refine ⟨hvoid, ?_, filterMap_leaf_visitsAll t⟩
  have hhtml := renderAll_eq_writtenAt t
  rwa [shownAll_eq_self_iff.2 hvoid] at hhtml

/-- Void elements in all their spellings, with text and comments where their content would be. A `br` and an
    `hr` that no slash closes come before ones that a slash closes, and their end tags come later. -/
theorem toHtml_of_parseFragment_void :
    let text := "<br><br/>a</br><img/>b</img><p><hr><wbr><hr/><b>c<wbr/></b></hr>d</p><br/><!--e--><input>f"
    let t : Fragment :=
      [.element "br" [] [] none, .element "br" [] [] none, .text "a", .element "img" [] [] none, .text "b",
        .element "p" [] [.element "hr" [] [] none, .element "wbr" [] [] none, .element "hr" [] [] none,
          .element "b" [] [.text "c", .element "wbr" [] [] none] none, .text "d"] none,
        .element "br" [] [] none, .comment "e", .element "input" [] [] none, .text "f"]
    parseFragment text = .ok t ∧ (∀ n ∈ nodesAll t, IsVoidEmpty n) ∧
      toHtml t = String.join ((visitsAll t).map Visit.written) ∧
      (visitsAll t).filterMap Visit.leaf? = (nodesAll t).filter fun n => !n.isElement := by
  intro text t
  have hparse : parseFragment text = .ok t := by decide +kernel
  exact ⟨hparse, toHtml_of_parseFragment hparse⟩

end MarkupCleaner.Output
