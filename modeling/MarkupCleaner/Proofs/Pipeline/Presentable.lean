import MarkupCleaner.Proofs.Cleanup.Convergence
import MarkupCleaner.Proofs.ClassRules.Sweep
import MarkupCleaner.Proofs.Output.Joined
import MarkupCleaner.Proofs.Output.Written
import MarkupCleaner.Proofs.Pipeline.Stages
import MarkupCleaner.Proofs.Tree.AttributeNames

/-!
# What every written tree has

Parsing gives every element proper attribute names and every comment a payload that does not end it. The
cleanup only drops attributes, an image gets proper names from the element that it replaces, and the class
rules write to one spelling of the class attribute and drop the other. So all this holds of the tree that
is written, and a comment in it is read back with its payload.
-/

namespace MarkupCleaner

open Node Cleanup Live Live.Edit Markup Attributes

/-- An element with proper attribute names, or a comment whose payload does not end it. -/
def IsSound : Node → Prop
  | .element _ attrs _ _ => Proper attrs.names
  | .text _ => True
  | .comment data => EndsNoComment data.toList

theorem ignoresChildren_isSound : IgnoresChildren IsSound := fun _ _ _ _ _ h => h

/-! ## Parsing -/

theorem proper_of_startTag {cs : List Char} {tag : String} {attrs : List Attribute} {closed : Bool}
    {rest : List Char} (h : startTag cs = .ok (.tag tag attrs closed rest)) : Proper (names attrs) := by
  constructor
  case distinct =>
    obtain ⟨-, -, -, written, -, rfl⟩ := startTag_spec h
    exact nodup_names_firstOfEachName written
  case lower =>
    intro name hname
    obtain ⟨a, ha, rfl⟩ := List.mem_map.1 hname
    exact lowerName_of_startTag h a ha

theorem holdsWhenPlaced_isSound : HoldsWhenPlaced fun _ => IsSound := by
  constructor
  case text =>
    intro kept value
    trivial
  case comment =>
    intro kept data hdata
    exact Output.endsNoComment_shortText hdata kept
  case element =>
    intro kept c cs rest tag attrs closed children hletter hstart hempty hraw
    exact proper_of_startTag hstart

theorem isSound_of_parseFragment {text : String} {t : Fragment} (h : parseFragment text = .ok t) :
    ∀ n ∈ nodesAll t, IsSound n :=
  everywhereBelow_const.1 (everywhereBelow_of_parseFragment holdsWhenPlaced_isSound h)

/-! ## The cleanup -/

theorem distinctAfter_sublist (seen : List String) (attrs : Attributes) :
    (distinctAfter seen attrs).Sublist attrs := by
  induction attrs generalizing seen with
  | nil => exact List.Sublist.refl _
  | cons a attrs ih =>
    rw [distinctAfter]
    split
    · exact (ih _).cons a
    · exact (ih _).cons_cons a

theorem semanticForm_snd_sublist (tag : String) (attrs : Attributes) :
    (semanticForm tag attrs).2.Sublist attrs := by
  rcases semanticForm_cases tag attrs with heq | ⟨-, new, -, heq | heq⟩
  · rw [heq]
  · rw [heq]
  · rw [heq]
    exact erase_sublist attrs "role"

/-- An edit that drops attributes at most. -/
theorem isSound_of_mem_onAll {σ : Type} {e : Edit σ}
    (hattrs : ∀ s tag attrs, (e.attrs s tag attrs).Sublist attrs) (s : σ) {ns : List Node}
    (h : ∀ n ∈ nodesAll ns, IsSound n) : ∀ n ∈ nodesAll (e.onAll s ns), IsSound n := by
  refine forall_nodesAll_onAll e (fun s n hn => ?_) s ns h
  cases n with
  | element tag attrs children ns => exact hn.sublist (names_sublist (hattrs s tag attrs))
  | text value => trivial
  | comment data => exact hn

theorem isSound_of_mem_apply (p : Pass) {ns : Fragment} (h : ∀ n ∈ nodesAll ns, IsSound n) :
    ∀ n ∈ nodesAll (p.apply ns), IsSound n := by
  cases p with
  | normalizeWhitespace =>
    rw [Pass.apply, normalizeWhitespace, ← onAll_whitespaceEdit]
    exact isSound_of_mem_onAll (fun _ _ attrs => List.Sublist.refl attrs) false h
  | removeEmpty => exact of_mem_prune ignoresChildren_isSound h
  | semanticTags =>
    rw [Pass.apply, convertSemanticTags, ← onAll_semanticEdit]
    exact isSound_of_mem_onAll (fun _ => semanticForm_snd_sublist) () h
  | flattenWrappers => exact of_mem_flattenBelow ignoresChildren_isSound h
  | duplicateAttributes =>
    rw [Pass.apply, removeDuplicateAttributes, ← onAll_duplicateEdit]
    exact isSound_of_mem_onAll (fun _ _ attrs => distinctAfter_sublist [] attrs) () h
  | nesting =>
    rw [Pass.apply, fixNesting, ← onAll_nestingEdit]
    exact isSound_of_mem_onAll (fun _ _ attrs => List.Sublist.refl attrs) false h

theorem isSound_of_mem_cleanup (options : CleanupOptions) {t : Fragment}
    (h : ∀ n ∈ nodesAll t, IsSound n) : ∀ n ∈ nodesAll (cleanup options t), IsSound n :=
  Pass.applyAll_induction (fun ns => ∀ n ∈ nodesAll ns, IsSound n)
    (fun p _ _ => isSound_of_mem_apply p) h

/-! ## Images -/

theorem names_append (attrs attrs' : Attributes) : names (attrs ++ attrs') = attrs.names ++ attrs'.names :=
  List.map_append

theorem names_toList_sublist (name : String) (value : Option String) :
    (names (value.toList.map fun value => ⟨name, value⟩)).Sublist [name] := by
  cases value with
  | none => exact List.nil_sublist [name]
  | some value => exact List.Sublist.refl [name]

theorem names_ite_sublist (skip : Bool) (a : Attribute) :
    (names (if skip then [] else [a])).Sublist [a.name] := by
  cases skip with
  | true => exact List.nil_sublist [a.name]
  | false => exact List.Sublist.refl [a.name]

theorem proper_iconAttributes {attrs attrs' : Attributes} (h : Image.iconAttributes attrs = .ok attrs') :
    Proper attrs'.names := by
  obtain ⟨⟨width, height⟩, -, h⟩ := except_bind_eq_ok.1 h
  obtain rfl := Except.ok.inj h
  have hall : Proper ([Image.iconMarker] ++ ["class"] ++ ["width", "height", "alt"]) := by decide
  refine hall.sublist ?_
  rw [names_append, names_append]
  exact ((names_toList_sublist _ _).append (names_ite_sublist _ _)).append_right _

/-- Data attributes have none of the names that are written beside them. -/
theorem proper_beside_data {data : List String} (h : Proper data)
    (hdata : ∀ name ∈ data, "data-".toList.isPrefixOf name.toList = true) :
    Proper ("class" :: (data ++ ["src", "alt", "style"])) := by
  have hfixed : Proper ["class", "src", "alt", "style"] := by decide
  have hnot : ∀ name ∈ ["class", "src", "alt", "style"],
      "data-".toList.isPrefixOf name.toList = false := by decide
  have hall : Proper (data ++ "class" :: ["src", "alt", "style"]) := by
    refine h.append hfixed ?_
    intro name hname hmem
    have hlead := hdata name hname
    rw [hnot name hmem] at hlead
    cases hlead
  exact hall.perm List.perm_middle.symm

theorem proper_boxAttributes {attrs : Attributes} (h : Proper attrs.names) (source : Option String) :
    Proper (Image.boxAttributes attrs source).names := by
  have hdata : Proper (names (attrs.filter fun a => "data-".toList.isPrefixOf a.name.toList)) :=
    h.sublist (names_sublist List.filter_sublist)
  refine (proper_beside_data hdata ?_).sublist ?_
  · intro name hname
    obtain ⟨a, ha, rfl⟩ := List.mem_map.1 hname
    exact (List.mem_filter.1 ha).2
  · unfold Image.boxAttributes
    simp only [names_append, List.append_assoc]
    have hrest : (names ((source.filter (· ≠ "")).toList.map fun value => ⟨"src", value⟩) ++
        (names [⟨"alt", (attrs.get? "aria-label").getD ""⟩] ++
          names (((attrs.get? "style").filter (· ≠ "")).toList.map fun value => ⟨"style", value⟩))).Sublist
            ["src", "alt", "style"] :=
      (names_toList_sublist _ _).append ((List.Sublist.refl _).append (names_toList_sublist _ _))
    exact (names_ite_sublist _ _).append ((List.Sublist.refl _).append hrest)

mutual

theorem isSound_of_mem_replaceNode {options : ImageOptions} : ∀ {n m : Node},
    (∀ k ∈ n.nodes, IsSound k) → Image.replaceNode options n = .ok m → ∀ k ∈ m.nodes, IsSound k
  | .element tag attrs children ns, m, h, hm => by
    obtain ⟨hself, hbelow⟩ := forall_nodes_element.1 h
    rw [Image.replaceNode] at hm
    split at hm
    · obtain ⟨attrs', hattrs, hm⟩ := except_bind_eq_ok.1 hm
      obtain rfl := Except.ok.inj hm
      exact forall_nodes_element.2 ⟨proper_iconAttributes hattrs, List.forall_mem_nil _⟩
    · obtain ⟨replaced, hreplaced, hm⟩ := except_bind_eq_ok.1 hm
      split at hm
      · obtain rfl := Except.ok.inj hm
        exact forall_nodes_element.2 ⟨proper_boxAttributes hself _, List.forall_mem_nil _⟩
      · obtain rfl := Except.ok.inj hm
        exact forall_nodes_element.2 ⟨hself, isSound_of_mem_replaceBelow hbelow hreplaced⟩
  | .text value, m, h, hm => by
    obtain rfl := Except.ok.inj hm
    exact h
  | .comment data, m, h, hm => by
    obtain rfl := Except.ok.inj hm
    exact h

/-- The elements that images come from have proper names, and so have the images. -/
theorem isSound_of_mem_replaceBelow {options : ImageOptions} : ∀ {ns ms : List Node},
    (∀ n ∈ nodesAll ns, IsSound n) → Image.replaceBelow options ns = .ok ms → ∀ m ∈ nodesAll ms, IsSound m
  | [], ms, h, hms => by
    obtain rfl := Except.ok.inj hms
    exact h
  | n :: ns, ms, h, hms => by
    obtain ⟨hn, hns⟩ := forall_nodesAll_cons.1 h
    obtain ⟨first, hfirst, hms⟩ := except_bind_eq_ok.1 hms
    obtain ⟨rest, hrest, hms⟩ := except_bind_eq_ok.1 hms
    obtain rfl := Except.ok.inj hms
    exact forall_nodesAll_cons.2
      ⟨isSound_of_mem_replaceNode hn hfirst, isSound_of_mem_replaceBelow hns hrest⟩

end

/-! ## The class rules -/

/-- An element that has one spelling of the class attribute if it has class tokens. -/
def HasOneClassAttribute : Node → Prop :=
  OnElement fun _ attrs => attrs.classTokens ≠ [] → HasOneSpelling attrs

theorem isSound_of_rewrites {e : ClassRules.Engine} {n m : Node} (h : e.Rewrites n m) (hn : IsSound n) :
    IsSound m ∧ HasOneClassAttribute m := by
  cases n with
  | element tag attrs children ns =>
    cases m with
    | element tag' attrs' children' ns' =>
      obtain ⟨-, -, happly⟩ := h
      by_cases hnil : attrs.classTokens = []
      · rw [e.applyToAttributes_of_no_tokens hnil] at happly
        obtain rfl := Except.ok.inj happly
        exact ⟨hn, fun hne => absurd hnil hne⟩
      · -- rules that leave no token drop both spellings, and then there is nothing to show
        obtain ⟨tokens, -, rfl⟩ := (e.applyToAttributes_eq_ok_iff hnil).1 happly
        refine ⟨Proper.setClassTokens hn tokens, fun hne => hasOneSpelling_setClassTokens ?_⟩
        rintro rfl
        rw [classTokens_setClassTokens] at hne
        exact hne rfl
    | text value => exact h.elim
    | comment data => exact h.elim
  | text value =>
    cases m with
    | element tag' attrs' children' ns' => exact h.elim
    | text value' => exact ⟨trivial, trivial⟩
    | comment data => exact h.elim
  | comment data =>
    cases m with
    | element tag' attrs' children' ns' => exact h.elim
    | text value => exact h.elim
    | comment data' =>
      obtain rfl : data' = data := h
      exact ⟨hn, trivial⟩

/-- The class rules leave one spelling of the class attribute at every element that has class tokens. -/
theorem isSound_of_mem_applyBelow {e : ClassRules.Engine} {ns ms : List Node}
    (h : ∀ n ∈ nodesAll ns, IsSound n) (hms : e.applyBelow ns = .ok ms) :
    ∀ m ∈ nodesAll ms, IsSound m ∧ HasOneClassAttribute m := by
  have hrewrites := ClassRules.Engine.forall₂_rewrites_applyBelow hms
  generalize nodesAll ns = before at h hrewrites
  generalize nodesAll ms = after at hrewrites
  induction hrewrites with
  | nil => exact List.forall_mem_nil _
  | cons hnode _ ih =>
    obtain ⟨hn, hrest⟩ := List.forall_mem_cons.1 h
    exact List.forall_mem_cons.2 ⟨isSound_of_rewrites hnode hn, ih hrest⟩

/-! ## Comments -/

/-- A payload in which two hyphens, white space and a closing bracket follow each other. -/
def HoldsCommentEnd (data : String) : Prop :=
  ∃ before blanks after, data.toList = before ++ '-' :: '-' :: (blanks ++ '>' :: after) ∧
    blanks.all Text.isBlankChar = true

theorem not_holdsCommentEnd {data : String} (h : EndsNoComment data.toList) : ¬HoldsCommentEnd data := by
  rintro ⟨before, blanks, after, hdata, hblanks⟩
  have hsuffix : '-' :: '-' :: (blanks ++ '>' :: after) <:+ data.toList := ⟨before, hdata.symm⟩
  have hnone := h _ hsuffix
  have htrim : Text.trimStart (blanks ++ '>' :: after) = '>' :: after := by
    rw [Text.trimStart, List.dropWhile_append_of_pos (List.all_eq_true.1 hblanks)]
    rfl
  rw [commentEnd?, htrim] at hnone
  cases hnone

/-- A comment is written so that it is read back as one comment with its payload. -/
theorem tokens_render_comment {data : String} (h : EndsNoComment data.toList) :
    tokens (Output.render Output.html (.comment data)).toList = .ok [.comment data.toList] := by
  have hreads := reads_comment h []
  rw [← Output.toList_render_comment] at hreads
  exact tokens_of_reads hreads

/-! ## The written tree -/

namespace Pipeline

/-- What the nodes of a written tree have: proper attribute names, exactly one spelling of the class
    attribute where there are class tokens, and payloads of comments that are read back. -/
def IsPresentable : Node → Prop
  | .element _ attrs _ _ => Proper attrs.names ∧ (attrs.classTokens ≠ [] → HasOneSpelling attrs)
  | .text _ => True
  | .comment data => ¬HoldsCommentEnd data ∧
      tokens (Output.render Output.html (.comment data)).toList = .ok [.comment data.toList]

theorem isPresentable_of_isSound {n : Node} (h : IsSound n) (hclass : HasOneClassAttribute n) :
    IsPresentable n := by
  cases n with
  | element tag attrs children ns => exact ⟨h, hclass⟩
  | text value => trivial
  | comment data => exact ⟨not_holdsCommentEnd h, tokens_render_comment h⟩

/-- The tree that is written, whatever the options: in every element the attribute names are distinct and
    in lower case, an element with class tokens has exactly one of the two class attributes, and no comment
    holds an end of a comment, so that it is written as one comment. -/
theorem isPresentable_of_mem_writtenTree {options : PipelineOptions} {text : String} {t : Fragment}
    (h : writtenTree options text = .ok t) :
    (unformatted options text).1 = .ok (render options t) ∧ ∀ n ∈ nodesAll t, IsPresentable n := by
  have houtput : (unformatted options text).1 = .ok (render options t) := by
    rw [unformatted_fst, h]
    rfl
  obtain ⟨tree, htree, fixed, hfixed, e, -, happly⟩ := writtenTree_eq_ok_iff.1 h
  have hclean := isSound_of_mem_cleanup options.cleanup (isSound_of_parseFragment htree)
  have hruled := isSound_of_mem_applyBelow (isSound_of_mem_replaceBelow hclean hfixed) happly
  refine ⟨houtput, fun n hn => ?_⟩
  obtain ⟨hsound, hclass⟩ := hruled n hn
  exact isPresentable_of_isSound hsound hclass

/-- Attributes in capitals, one of them twice and both class attributes, beside a comment. -/
theorem isPresentable_of_mem_writtenTree_capitals :
    let text := "<p classname=b Class=a ID=x id=y>t</p><!--a- ->-->"
    let t : Fragment :=
      [.element "p" [⟨"class", "a b"⟩, ⟨"id", "x"⟩] [.text "t"] none, .comment "a- ->"]
    writtenTree {} text = .ok t ∧
      (unformatted {} text).1 = .ok "<p class=\"a b\" id=\"x\">t</p><!--a- ->-->" ∧
      ∀ n ∈ nodesAll t, IsPresentable n := by
  intro text t
  have hwritten : writtenTree {} text = .ok t := by decide +kernel
  obtain ⟨houtput, hpresentable⟩ := isPresentable_of_mem_writtenTree hwritten
  exact ⟨hwritten, houtput.trans (by decide +kernel), hpresentable⟩

end Pipeline
end MarkupCleaner
