import MarkupCleaner.Proofs.Output.Delimiters
import MarkupCleaner.Proofs.Text.Trim

/-!
# One expression

The grammar of the markup in a component: an element with its properties and its content, or content
between empty tags. A component returns one of these, so there has to be one element at the top, or several
nodes that are put into one.
-/

namespace MarkupCleaner.Output

open Markup Node

/-! ## Grammar -/

/-- A name of an element or a property: a letter, then letters, digits and hyphens. -/
def isJsxName : List Char → Bool
  | [] => false
  | c :: cs => isAsciiLetter c && cs.all fun d => isAsciiLetter d || isAsciiDigit d || d = '-'

/-- A character of the text between tags. -/
def isJsxTextChar (c : Char) : Bool := !(c = '<' || c = '>' || c = '{' || c = '}')

/-- A property with a space before it: a value in quotes, or an expression that closes its braces, strings
and comments. -/
inductive IsProperty : List Char → Prop where
  | quoted {name value : List Char} (hname : isJsxName name) (hvalue : '"' ∉ value) :
      IsProperty (' ' :: name ++ ['='] ++ (['"'] ++ value ++ ['"']))
  | expression {name code : List Char} (hname : isJsxName name) (hcode : Keeps (.code true 0 .plain) code) :
      IsProperty (' ' :: name ++ ['='] ++ (['{'] ++ code ++ ['}']))

/-- What a piece of markup is: one element, or whatever stands between two tags. -/
inductive JsxKind where
  | element
  | content

/-- The grammar of the markup in a component. -/
inductive IsJsx : JsxKind → List Char → Prop where
  | void {name : List Char} {properties : List (List Char)} (hname : isJsxName name)
      (hproperties : ∀ cs ∈ properties, IsProperty cs) :
      IsJsx .element ('<' :: name ++ properties.flatten ++ [' ', '/', '>'])
  | paired {name content : List Char} {properties : List (List Char)} (hname : isJsxName name)
      (hproperties : ∀ cs ∈ properties, IsProperty cs) (hcontent : IsJsx .content content) :
      IsJsx .element ('<' :: name ++ properties.flatten ++ ['>'] ++ content ++ ('<' :: '/' :: name ++ ['>']))
  | fragment {content : List Char} (hcontent : IsJsx .content content) :
      IsJsx .element (['<', '>'] ++ content ++ ['<', '/', '>'])
  | nil : IsJsx .content []
  | char {c : Char} {cs : List Char} (hc : isJsxTextChar c) (h : IsJsx .content cs) :
      IsJsx .content (c :: cs)
  | comment {data cs : List Char} (hdata : ¬['*', '/'] <:+: data) (h : IsJsx .content cs) :
      IsJsx .content (['{', '/', '*'] ++ data ++ ['*', '/'] ++ ['}'] ++ cs)
  | nested {element cs : List Char} (helement : IsJsx .element element) (h : IsJsx .content cs) :
      IsJsx .content (element ++ cs)

/-- A text from one bracket to another. -/
def IsBracketed (cs : List Char) : Prop := ∃ inner, cs = '<' :: inner ++ ['>']

theorem IsJsx.isBracketed {cs : List Char} (h : IsJsx .element cs) : IsBracketed cs := by
  cases h with
  | @void name properties hname hproperties => exact ⟨name ++ properties.flatten ++ [' ', '/'], by simp⟩
  | @paired name content properties hname hproperties hcontent =>
    exact ⟨name ++ properties.flatten ++ ['>'] ++ content ++ ('<' :: '/' :: name), by simp⟩
  | @fragment content hcontent => exact ⟨['>'] ++ content ++ ['<', '/'], by simp⟩

/-! ## Trimming -/

/-- Content stays content without the characters at its front up to one of its pieces. -/
theorem IsJsx.trimStart {cs : List Char} (h : IsJsx .content cs) : IsJsx .content (Text.trimStart cs) := by
  generalize hkind : JsxKind.content = kind at h
  induction h with
  | void | paired | fragment => cases hkind
  | nil => exact .nil
  | @char c cs hc h ih =>
    cases hblank : Text.isBlankChar c with
    | false =>
      rw [Text.trimStart_cons_of_not_blank hblank]
      exact .char hc (hkind ▸ h)
    | true =>
      rw [Text.trimStart, List.dropWhile_cons_of_pos hblank]
      exact ih hkind
  | @comment data cs hdata h ih =>
    have hblank : Text.isBlankChar '{' = false := by decide
    have htrim := Text.trimStart_cons_of_not_blank hblank (['/', '*'] ++ data ++ ['*', '/'] ++ ['}'] ++ cs)
    exact htrim.symm ▸ .comment hdata (hkind ▸ h)
  | @nested element cs helement h _ ih =>
    obtain ⟨inner, hinner⟩ := helement.isBracketed
    have hblank : Text.isBlankChar '<' = false := by decide
    have htrim := Text.trimStart_cons_of_not_blank hblank (inner ++ ['>'] ++ cs)
    have hwhole : element ++ cs = '<' :: (inner ++ ['>'] ++ cs) := by rw [hinner]; rfl
    rw [hwhole, htrim, ← hwhole]
    exact .nested helement (hkind ▸ h)

/-- A blank at the end comes after a piece that ends with something else. -/
theorem exists_of_append_eq_concat {piece later cs : List Char} {c d : Char}
    (hd : Text.isBlankChar d = false) (hc : Text.isBlankChar c = true)
    (h : piece ++ [d] ++ later = cs ++ [c]) : ∃ rest, later = rest ++ [c] ∧ cs = piece ++ [d] ++ rest := by
  rcases List.eq_nil_or_concat later with rfl | ⟨rest, e, rfl⟩
  · rw [List.append_nil] at h
    have hlast : d = c := (List.append_singleton_inj.1 h).2
    rw [hlast, hc] at hd
    cases hd
  · rw [List.concat_eq_append, ← List.append_assoc] at h
    rw [List.concat_eq_append]
    obtain ⟨hcs, rfl⟩ := List.append_singleton_inj.1 h
    exact ⟨rest, rfl, hcs.symm⟩

/-- Content stays content without a white-space character at its end. -/
theorem IsJsx.of_concat_blank {cs : List Char} {c : Char} (hc : Text.isBlankChar c = true)
    (h : IsJsx .content (cs ++ [c])) : IsJsx .content cs := by
  generalize hkind : JsxKind.content = kind at h
  generalize hwhole : cs ++ [c] = whole at h
  induction h generalizing cs with
  | void | paired | fragment => cases hkind
  | nil => simp at hwhole
  | @char d later hd h ih =>
    cases cs with
    | nil => exact .nil
    | cons e cs =>
      obtain ⟨rfl, hlater⟩ := List.cons.inj hwhole
      exact .char hd (ih hkind hlater)
  | @comment data later hdata h ih =>
    have hbrace : Text.isBlankChar '}' = false := by decide
    obtain ⟨rest, hlater, rfl⟩ := exists_of_append_eq_concat hbrace hc hwhole.symm
    exact .comment hdata (ih hkind hlater.symm)
  | @nested element later helement h _ ih =>
    have hbracket : Text.isBlankChar '>' = false := by decide
    obtain ⟨inner, rfl⟩ := helement.isBracketed
    obtain ⟨rest, hlater, rfl⟩ := exists_of_append_eq_concat hbracket hc hwhole.symm
    exact .nested helement (ih hkind hlater.symm)

theorem IsJsx.trimEnd {cs : List Char} (h : IsJsx .content cs) : IsJsx .content (Text.trimEnd cs) := by
  induction cs using List.reverseRecOn with
  | nil => exact h
  | append_singleton cs c ih =>
    cases hblank : Text.isBlankChar c with
    | false => rwa [Text.trimEnd_concat_of_not_blank hblank]
    | true =>
      rw [Text.trimEnd_eq_rdropWhile, List.rdropWhile_concat_pos _ _ c hblank]
      exact ih (h.of_concat_blank hblank)

theorem IsJsx.trim {cs : List Char} (h : IsJsx .content cs) : IsJsx .content (Text.trim cs) :=
  h.trimStart.trimEnd

/-! ## Trees -/

/-- A node that is written by the grammar: its names are names of the grammar, the property names of a style
are plain, and neither its text nor its comment leaves its place. -/
def IsJsxNode : Node → Prop
  | .element tag attrs _ _ => isJsxName tag.toList ∧
    ∀ a ∈ attrs, isJsxName a.name.toList ∧ (a.name = "style" → HasPlainKeys a.value.toList)
  | .text value => ∀ c ∈ value.toList, c ≠ '{' ∧ c ≠ '}'
  | .comment data => ¬['*', '/'] <:+: data.toList

theorem isJsxName_propertyName (options : ReactOptions) {name : String} (h : isJsxName name.toList) :
    isJsxName (propertyName options name).toList := by
  have hproperty : ∀ n ∈ ["className", "class", "htmlFor"], isJsxName n.toList := by decide
  rcases propertyName_cases options name with heq | ⟨-, hmem⟩
  · rwa [heq]
  · exact hproperty _ hmem

theorem isProperty_reactAttribute (options : ReactOptions) {a : Attribute} (hname : isJsxName a.name.toList)
    (hkeys : a.name = "style" → HasPlainKeys a.value.toList) : IsProperty (reactAttribute options a).toList := by
  have hproperty := isJsxName_propertyName options hname
  unfold reactAttribute
  dsimp only
  split_ifs with hempty hstyle hnumber
  · rw [hempty] at hproperty
    cases hproperty
  · have hobject : Keeps (.code true 0 .plain) (styleObject options.styleMode a.value.toList) :=
      keeps_styleObject _ (hkeys (eq_style_of_propertyName hstyle))
    have hwritten := IsProperty.expression hproperty hobject
    rw [hstyle] at hwritten
    simpa [braced] using hwritten
  · rw [Bool.and_eq_true] at hnumber
    have hwritten := IsProperty.expression hproperty (keeps_plainCode (plain_of_isPlainNumber hnumber.2))
    simpa [braced] using hwritten
  · have hwritten := IsProperty.quoted hproperty (quote_notMem_escapedValue a.value.toList)
    simpa using hwritten

theorem isJsxTextChar_of_mem_escapedText {value : List Char} (h : ∀ c ∈ value, c ≠ '{' ∧ c ≠ '}') :
    ∀ c ∈ escapedText value, isJsxTextChar c = true := by
  intro c hc
  obtain ⟨d, hd, hc⟩ := List.mem_flatMap.1 hc
  unfold escapeTextChar at hc
  split_ifs at hc with hamp hlt hgt
  · exact List.all_eq_true.1 (by decide : "&amp;".toList.all isJsxTextChar = true) c hc
  · exact List.all_eq_true.1 (by decide : "&lt;".toList.all isJsxTextChar = true) c hc
  · exact List.all_eq_true.1 (by decide : "&gt;".toList.all isJsxTextChar = true) c hc
  · obtain rfl := List.mem_singleton.1 hc
    simp [isJsxTextChar, hlt, hgt, h c hd]

theorem isJsx_chars {cs rest : List Char} (h : ∀ c ∈ cs, isJsxTextChar c = true)
    (hrest : IsJsx .content rest) : IsJsx .content (cs ++ rest) := by
  induction cs with
  | nil => exact hrest
  | cons c cs ih =>
    rw [List.forall_mem_cons] at h
    exact .char h.1 (ih h.2)

/-- An element whose content is content is one. -/
theorem isJsx_element (options : ReactOptions) {tag : String} {attrs : Attributes} {children : List Node}
    {ns : Option String} (h : IsJsxNode (.element tag attrs children ns))
    (hchildren : IsJsx .content (renderAll (react options) children).toList) :
    IsJsx .element (render (react options) (.element tag attrs children ns)).toList := by
  obtain ⟨htag, hattrs⟩ := h
  have hproperties : ∀ cs ∈ attrs.map fun a => (reactAttribute options a).toList, IsProperty cs := by
    intro cs hcs
    obtain ⟨a, ha, rfl⟩ := List.mem_map.1 hcs
    exact isProperty_reactAttribute options (hattrs a ha).1 (hattrs a ha).2
  have hjoin : (String.join (attrs.map (react options).writeAttribute)).toList =
      (attrs.map fun a => (reactAttribute options a).toList).flatten := by
    rw [String.toList_join, List.flatMap_map]
    rfl
  rw [render]
  split_ifs
  · simpa [hjoin] using IsJsx.void htag hproperties
  · simpa [hjoin] using IsJsx.paired htag hproperties hchildren

mutual

/-- What is written for a node goes before content. -/
theorem isJsx_render (options : ReactOptions) : ∀ n : Node, (∀ m ∈ n.nodes, IsJsxNode m) →
    ∀ rest, IsJsx .content rest → IsJsx .content ((render (react options) n).toList ++ rest)
  | .element tag attrs children ns, h, rest, hrest => by
    obtain ⟨hn, hbelow⟩ := forall_nodes_element.1 h
    exact .nested (isJsx_element options hn (isJsx_renderAll options children hbelow)) hrest
  | .text value, h, rest, hrest => by
    rw [render, toList_escapeText]
    exact isJsx_chars (isJsxTextChar_of_mem_escapedText (forall_nodes_text.1 h)) hrest
  | .comment data, h, rest, hrest => by
    rw [forall_nodes_comment] at h
    have hwritten : (render (react options) (.comment data)).toList ++ rest =
        ['{', '/', '*'] ++ data.toList ++ ['*', '/'] ++ ['}'] ++ rest := by
      simp [render, react, braced]
    rw [hwritten]
    exact .comment h hrest

theorem isJsx_renderAll (options : ReactOptions) : ∀ ns : List Node, (∀ m ∈ nodesAll ns, IsJsxNode m) →
    IsJsx .content (renderAll (react options) ns).toList
  | [], _ => .nil
  | n :: ns, h => by
    obtain ⟨hn, hns⟩ := forall_nodesAll_cons.1 h
    rw [renderAll, String.toList_append]
    exact isJsx_render options n hn _ (isJsx_renderAll options ns hns)

end

/-! ## Components -/

/-- There is an element at the top, or several nodes that are put into one. -/
def HasOneRoot (t : Fragment) : Prop := 1 < t.length ∨ ∃ n, t = [n] ∧ n.isElement = true

theorem isBracketed_render (options : ReactOptions) {n : Node} (h : n.isElement = true) :
    IsBracketed (render (react options) n).toList := by
  cases n with
  | element tag attrs children ns =>
    rw [render]
    split_ifs
    · exact ⟨(tag ++ String.join (attrs.map (react options).writeAttribute)).toList ++ [' ', '/'], by simp⟩
    · exact ⟨(tag ++ String.join (attrs.map (react options).writeAttribute) ++ ">" ++
        renderAll (react options) children ++ "</" ++ tag).toList, by simp⟩
  | text value => cases h
  | comment data => cases h

theorem stripped_of_isBracketed {s : String} (h : IsBracketed s.toList) : Text.stripped s = s := by
  obtain ⟨inner, hinner⟩ := h
  rw [Text.stripped, hinner, Text.trim_eq_self (by decide) (by decide), ← hinner, String.ofList_toList]

theorem reactBody_singleton (options : ReactOptions) (n : Node) :
    reactBody options (.fragment [n]) = Text.stripped (render (react options) n) := by
  have hwritten : renderAll (react options) [n] = render (react options) n := String.append_empty
  rw [reactBody, hwritten]
  rfl

theorem reactBody_of_element (options : ReactOptions) {n : Node} (h : n.isElement = true) :
    reactBody options (.fragment [n]) = render (react options) n := by
  rw [reactBody_singleton]
  exact stripped_of_isBracketed (isBracketed_render options h)

/-- A text or a comment alone stays what it is. -/
theorem not_isBracketed_reactBody_of_leaf (options : ReactOptions) {n : Node} (h : n.isElement = false) :
    ¬IsBracketed (reactBody options (.fragment [n])).toList := by
  rintro ⟨inner, hinner⟩
  rw [reactBody_singleton, Text.toList_stripped] at hinner
  cases n with
  | element tag attrs children ns => cases h
  | text value =>
    have hmem : '<' ∈ Text.trim (escapeText value).toList := by
      rw [show (escapeText value).toList = (render (react options) (.text value)).toList by rw [render], hinner]
      exact List.mem_cons_self
    rw [toList_escapeText] at hmem
    exact bracket_notMem_escapedText value.toList ((Text.trim_infix _).subset hmem)
  | comment data =>
    have hwritten : (render (react options) (.comment data)).toList =
        '{' :: (['/', '*'] ++ data.toList ++ ['*', '/']) ++ ['}'] := by
      simp [render, react, braced]
    rw [hwritten, Text.trim_eq_self (by decide) (by decide)] at hinner
    cases (List.cons.inj hinner).1

/-- Several nodes are put into a fragment or a block. -/
theorem reactBody_of_several (options : ReactOptions) {t : Fragment} (h : 1 < t.length) :
    (reactBody options (.fragment t)).toList =
      (if options.useFragments then ['<', '>'] else "<div>".toList) ++
        Text.trim (renderAll (react options) t).toList ++
        (if options.useFragments then ['<', '/', '>'] else "</div>".toList) := by
  rw [reactBody, if_neg (Nat.not_le.2 h)]
  split_ifs <;> simp [Text.toList_stripped]

/-- What a component returns starts and ends with a bracket exactly if there is one element at the top or
more than one node. -/
theorem isBracketed_reactBody_iff (options : ReactOptions) (t : Fragment) :
    IsBracketed (reactBody options (.fragment t)).toList ↔ HasOneRoot t := by
  match t with
  | [] =>
    refine iff_of_false ?_ ?_
    · rintro ⟨inner, hinner⟩
      cases hinner
    · rintro (hlength | ⟨n, hn, -⟩)
      · cases hlength
      · cases hn
  | [n] =>
    cases hn : n.isElement with
    | true =>
      refine iff_of_true ?_ (Or.inr ⟨n, rfl, hn⟩)
      rw [reactBody_of_element options hn]
      exact isBracketed_render options hn
    | false =>
      refine iff_of_false (not_isBracketed_reactBody_of_leaf options hn) ?_
      rintro (hlength | ⟨m, hm, helement⟩)
      · exact absurd hlength (Nat.lt_irrefl 1)
      · obtain rfl := (List.cons.inj hm).1
        rw [hn] at helement
        cases helement
  | n :: m :: t =>
    have hlength : 1 < (n :: m :: t).length := Nat.succ_lt_succ (Nat.succ_pos _)
    refine iff_of_true ?_ (Or.inl hlength)
    rw [reactBody_of_several options hlength]
    split_ifs
    · exact ⟨['>'] ++ Text.trim (renderAll (react options) (n :: m :: t)).toList ++ ['<', '/'], by simp⟩
    · exact ⟨"div>".toList ++ Text.trim (renderAll (react options) (n :: m :: t)).toList ++ "</div".toList,
        by simp⟩

/-- It then is one element of the grammar, if the nodes are written by the grammar. -/
theorem isJsx_reactBody_iff (options : ReactOptions) {t : Fragment} (h : ∀ n ∈ nodesAll t, IsJsxNode n) :
    IsJsx .element (reactBody options (.fragment t)).toList ↔ HasOneRoot t := by
  constructor
  · intro helement
    exact (isBracketed_reactBody_iff options t).1 helement.isBracketed
  · rintro (hlength | ⟨n, rfl, hn⟩)
    · rw [reactBody_of_several options hlength]
      have hcontent := (isJsx_renderAll options t h).trim
      split_ifs
      · exact .fragment hcontent
      · have hname : isJsxName "div".toList = true := by decide
        have hdiv := IsJsx.paired hname (List.forall_mem_nil _) hcontent
        simpa using hdiv
    · rw [reactBody_of_element options hn]
      cases n with
      | element tag attrs children ns =>
        obtain ⟨⟨hnode, hbelow⟩, -⟩ := forall_nodesAll_cons.1 h |>.imp_left forall_nodes_element.1
        exact isJsx_element options hnode (isJsx_renderAll options children hbelow)
      | text value => cases hn
      | comment data => cases hn

end MarkupCleaner.Output
