import MarkupCleaner.Proofs.Output.Expressions
import MarkupCleaner.Proofs.Output.Leaves

/-!
# Delimiters in component source

The writer puts numbers, styles and comments in braces of its own, and ends its comments. A brace in a text
or in a name is taken for such a brace by the reader, and the end of a comment within a comment for its end.
Quoted values and string literals hide what they hold.
-/

namespace MarkupCleaner.Output

open Markup Node

/-! ## What the writer delimits -/

/-- An expression in the braces of the writer. -/
def markedBraces (code : Marked) : Marked := [('{', true)] ++ code ++ [('}', true)]

/-- What stands behind the equals sign of a property. -/
def markedValue (options : ReactOptions) (name : String) (value : List Char) : Marked :=
  if name = "style" then markedBraces (foreign (styleObject options.styleMode value))
  else if (name = "width" || name = "height") && isPlainNumber value then markedBraces (foreign value)
  else foreign (['"'] ++ escapedValue value ++ ['"'])

/-- An attribute as a property. -/
def markedAttribute (options : ReactOptions) (a : Attribute) : Marked :=
  let name := propertyName options a.name
  if name = "" then []
  else foreign (' ' :: name.toList ++ ['=']) ++ markedValue options name a.value.toList

/-- A comment with its end. -/
def markedComment (data : List Char) : Marked :=
  markedBraces (foreign ['/', '*'] ++ foreign (data ++ ['*']) ++ [('/', true)])

mutual

/-- A node as component source. -/
def marked (options : ReactOptions) : Node → Marked
  | .element tag attrs children _ =>
    let start := foreign ('<' :: tag.toList) ++ attrs.flatMap (markedAttribute options)
    if voidElements.contains tag then start ++ foreign [' ', '/', '>']
    else start ++ foreign ['>'] ++ markedAll options children ++ foreign ('<' :: '/' :: tag.toList ++ ['>'])
  | .text value => foreign (escapedText value.toList)
  | .comment data => markedComment data.toList

/-- Several nodes as component source. -/
def markedAll (options : ReactOptions) : List Node → Marked
  | [] => []
  | n :: ns => marked options n ++ markedAll options ns

end

theorem map_fst_markedBraces (code : Marked) :
    (markedBraces code).map Prod.fst = '{' :: code.map Prod.fst ++ ['}'] := by
  simp [markedBraces]

theorem map_fst_markedAttribute (options : ReactOptions) (a : Attribute) :
    (markedAttribute options a).map Prod.fst = (reactAttribute options a).toList := by
  unfold markedAttribute reactAttribute markedValue
  dsimp only
  by_cases hname : propertyName options a.name = ""
  · simp [hname]
  · by_cases hstyle : propertyName options a.name = "style"
    · simp [hstyle, map_fst_markedBraces, braced]
    · rw [if_neg hname, if_neg hname, if_neg hstyle, if_neg hstyle]
      split <;> simp [map_fst_markedBraces, braced]

mutual

/-- What is marked is what is written. -/
theorem map_fst_marked (options : ReactOptions) : ∀ n : Node,
    (marked options n).map Prod.fst = (render (react options) n).toList
  | .element tag attrs children ns => by
    have hchildren := map_fst_markedAll options children
    have hattrs : (attrs.flatMap (markedAttribute options)).map Prod.fst =
        (String.join (attrs.map (react options).writeAttribute)).toList := by
      rw [String.toList_join, List.map_flatMap, List.flatMap_map]
      exact congrArg (attrs.flatMap ·) (funext fun a => map_fst_markedAttribute options a)
    rw [marked, render]
    split_ifs <;> simp [hattrs, hchildren]
  | .text value => by simp [marked, render]
  | .comment data => by simp [marked, render, markedComment, map_fst_markedBraces, react, braced]

theorem map_fst_markedAll (options : ReactOptions) : ∀ ns : List Node,
    (markedAll options ns).map Prod.fst = (renderAll (react options) ns).toList
  | [] => rfl
  | n :: ns => by
    rw [markedAll, renderAll, List.map_append, String.toList_append, map_fst_marked options n,
      map_fst_markedAll options ns]

end

/-! ## Attributes -/

theorem propertyName_cases (options : ReactOptions) (name : String) : propertyName options name = name ∨
    (name ∈ ["class", "classname", "for", "htmlfor"] ∧
      propertyName options name ∈ ["className", "class", "htmlFor"]) := by
  unfold propertyName
  split_ifs with hclass hclassname hfor
  · simp only [Bool.and_eq_true, Bool.or_eq_true, decide_eq_true_eq] at hclass
    rcases hclass.2 with rfl | rfl <;> simp
  · simp only [Bool.and_eq_true, decide_eq_true_eq] at hclassname
    simp [hclassname.2]
  · simp only [Bool.or_eq_true, decide_eq_true_eq] at hfor
    rcases hfor with rfl | rfl <;> simp
  · exact Or.inl rfl

/-- The names that are given to properties have none of the marks of a tag. -/
theorem mem_propertyName {c : Char} (hc : c = '{' ∨ c = '=' ∨ c = '>') (options : ReactOptions)
    (name : String) : c ∈ (propertyName options name).toList ↔ c ∈ name.toList := by
  rcases propertyName_cases options name with heq | ⟨hname, hproperty⟩
  · rw [heq]
  · have hname' : ∀ n ∈ ["class", "classname", "for", "htmlfor"], c ∉ n.toList := by
      rcases hc with rfl | rfl | rfl <;> decide
    have hproperty' : ∀ n ∈ ["className", "class", "htmlFor"], c ∉ n.toList := by
      rcases hc with rfl | rfl | rfl <;> decide
    exact iff_of_false (hproperty' _ hproperty) (hname' _ hname)

/-- A name in a tag. -/
theorem decides_name {cs : List Char} (hequals : '=' ∉ cs) (hclose : '>' ∉ cs) :
    Decides .tag (foreign cs) .tag ('{' ∉ cs) := by
  refine Decides.run (fun _ => rfl) fun c hc hopen => ?_
  have hne : c ≠ '=' := fun heq => hequals (heq ▸ hc)
  have hne' : c ≠ '>' := fun heq => hclose (heq ▸ hc)
  simp [Place.next, Place.nextInTag, hne, hne', hopen]

/-- Braces of the writer around an expression. -/
theorem decides_markedBraces {p : Place} (inTag : Bool) (hopen : p.next '{' = .code inTag 0 .plain)
    {code : Marked} {good : Prop}
    (hcode : Decides (.code inTag 0 .plain) code (.code inTag 0 .plain) good) :
    Decides p (markedBraces code) (if inTag then .tag else .content) good := by
  have hbefore : Decides p [('{', true)] (.code inTag 0 .plain) True :=
    Decides.of_eq (by simp [ownsDelimiters]) hopen
  have hafter : Decides (.code inTag 0 .plain) [('}', true)] (if inTag then .tag else .content) True :=
    Decides.of_eq rfl rfl
  exact hbefore.between hcode hafter

theorem isPlainCodeChar_of_isAsciiDigit {c : Char} (h : isAsciiDigit c = true) :
    isPlainCodeChar c = true := by
  have hall : ∀ n < 58, 48 ≤ n → isPlainCodeChar (Char.ofNat n) = true := by decide
  rw [isAsciiDigit, Bool.and_eq_true, decide_eq_true_eq, decide_eq_true_eq] at h
  have hc := hall c.toNat (Nat.lt_succ_of_le h.2) h.1
  rwa [Char.ofNat_toNat] at hc

/-- Digits with something plain after them. -/
theorem plain_of_digits {cs rest : List Char} (h : cs.dropWhile isAsciiDigit = rest)
    (hrest : ∀ c ∈ rest, isPlainCodeChar c = true) : ∀ c ∈ cs, isPlainCodeChar c = true := by
  intro c hc
  rw [← List.takeWhile_append_dropWhile (p := isAsciiDigit) (l := cs), h, List.mem_append] at hc
  rcases hc with hc | hc
  · exact isPlainCodeChar_of_isAsciiDigit (List.mem_takeWhile_imp hc)
  · exact hrest c hc

theorem plain_of_isPlainNumber {value : List Char} (h : isPlainNumber value = true) :
    ∀ c ∈ value, isPlainCodeChar c = true := by
  have hsign {cs : List Char} (hcs : ∀ c ∈ cs, isPlainCodeChar c = true) :
      ∀ c ∈ '-' :: cs, isPlainCodeChar c = true := List.forall_mem_cons.2 ⟨by decide, hcs⟩
  unfold isPlainNumber at h
  dsimp only at h
  split at h
  · cases h
  · next hwhole _ =>
    split at hwhole
    · exact hsign (plain_of_digits hwhole (List.forall_mem_nil _))
    · exact plain_of_digits hwhole (List.forall_mem_nil _)
  · next fraction hpoint _ =>
    rw [Bool.and_eq_true, List.all_eq_true] at h
    have hfraction : ∀ c ∈ '.' :: fraction, isPlainCodeChar c = true :=
      List.forall_mem_cons.2 ⟨by decide, fun c hc => isPlainCodeChar_of_isAsciiDigit (h.2 c hc)⟩
    split at hpoint
    · exact hsign (plain_of_digits hpoint hfraction)
    · exact plain_of_digits hpoint hfraction
  · cases h

theorem keeps_value {value : List Char} (hquote : '"' ∉ value) : Keeps (.value '"') value := by
  refine Keeps.of_stays (fun _ => rfl) fun c hc => ?_
  have hne : c ≠ '"' := fun heq => hquote (heq ▸ hc)
  exact if_neg hne

/-- Behind the value of a property the reader is in the tag again. -/
theorem decides_markedValue (options : ReactOptions) {name : String} {value : List Char}
    (hkeys : name = "style" → HasPlainKeys value) :
    Decides .equals (markedValue options name value) .tag True := by
  unfold markedValue
  split_ifs with hstyle hnumber
  · exact decides_markedBraces true rfl (keeps_styleObject _ (hkeys hstyle))
  · rw [Bool.and_eq_true] at hnumber
    exact decides_markedBraces true rfl (keeps_plainCode (plain_of_isPlainNumber hnumber.2))
  · have hopen : Decides .equals (foreign ['"']) (.value '"') True := Decides.of_eq rfl rfl
    have hclose : Decides (.value '"') (foreign ['"']) .tag True := Decides.of_eq rfl rfl
    have hvalue : Keeps (.value '"') (escapedValue value) := keeps_value (quote_notMem_escapedValue value)
    rw [foreign_append, foreign_append]
    exact hopen.between hvalue hclose

/-- What the reader can tell apart in an attribute: its name has no equals sign and no angle bracket, and
the property names of a style are plain. -/
structure IsClearAttribute (a : Attribute) : Prop where
  equals : '=' ∉ a.name.toList
  close : '>' ∉ a.name.toList
  keys : a.name = "style" → HasPlainKeys a.value.toList

theorem eq_style_of_propertyName {options : ReactOptions} {name : String}
    (h : propertyName options name = "style") : name = "style" := by
  rcases propertyName_cases options name with heq | ⟨-, hproperty⟩
  · rw [← heq, h]
  · rw [h] at hproperty
    exact absurd hproperty (by decide)

theorem decides_markedAttribute (options : ReactOptions) {a : Attribute} (h : IsClearAttribute a) :
    Decides .tag (markedAttribute options a) .tag ('{' ∉ a.name.toList) := by
  have hopen := mem_propertyName (Or.inl rfl) options a.name
  have hequals := mt (mem_propertyName (Or.inr (Or.inl rfl)) options a.name).1 h.equals
  have hclose := mt (mem_propertyName (Or.inr (Or.inr rfl)) options a.name).1 h.close
  rw [← hopen]
  unfold markedAttribute
  dsimp only
  split_ifs with hname
  · exact (Decides.nil .tag).congr (by simp [hname])
  · have hspace : Decides .tag (foreign [' ']) .tag True := Decides.of_eq rfl rfl
    have hsign : Decides .tag (foreign ['=']) .equals True := Decides.of_eq rfl rfl
    have hkeys (hstyle : propertyName options a.name = "style") : HasPlainKeys a.value.toList :=
      h.keys (eq_style_of_propertyName hstyle)
    have hvalue := decides_markedValue options hkeys
    have hwritten := (hspace.between (decides_name hequals hclose) hsign).append hvalue
    rw [← foreign_append, ← foreign_append] at hwritten
    exact hwritten.congr (by simp)

theorem decides_attributes (options : ReactOptions) {attrs : Attributes}
    (h : ∀ a ∈ attrs, IsClearAttribute a) :
    Decides .tag (attrs.flatMap (markedAttribute options)) .tag (∀ a ∈ attrs, '{' ∉ a.name.toList) := by
  induction attrs with
  | nil => exact (Decides.nil .tag).congr (by simp)
  | cons a attrs ih =>
    rw [List.forall_mem_cons] at h
    rw [List.flatMap_cons]
    refine ((decides_markedAttribute options h.1).append (ih h.2)).congr ?_
    rw [List.forall_mem_cons]

/-! ## Trees -/

/-- A node whose own characters hold no brace, and no end of a comment within a comment. -/
def IsContained : Node → Prop
  | .element tag attrs _ _ => '{' ∉ tag.toList ∧ ∀ a ∈ attrs, '{' ∉ a.name.toList
  | .text value => '{' ∉ value.toList
  | .comment data => ¬['*', '/'] <:+: data.toList

instance : DecidablePred IsContained
  | .element tag attrs _ _ =>
    inferInstanceAs (Decidable ('{' ∉ tag.toList ∧ ∀ a ∈ attrs, '{' ∉ a.name.toList))
  | .text value => inferInstanceAs (Decidable ('{' ∉ value.toList))
  | .comment data => inferInstanceAs (Decidable (¬['*', '/'] <:+: data.toList))

/-- What the reader can tell apart in a node. -/
structure IsClear (n : Node) : Prop where
  tag : OnElement (fun tag _ => '=' ∉ tag.toList ∧ '>' ∉ tag.toList) n
  attributes : OnElement (fun _ attrs => ∀ a ∈ attrs, IsClearAttribute a) n

theorem brace_mem_escapedText (cs : List Char) : '{' ∈ escapedText cs ↔ '{' ∈ cs := by
  have hchar (c : Char) : '{' ∈ escapeTextChar c ↔ '{' = c := by
    unfold escapeTextChar
    split_ifs with hamp hlt hgt
    · rw [hamp]
      decide
    · rw [hlt]
      decide
    · rw [hgt]
      decide
    · exact List.mem_singleton
  simp [escapedText, hchar]

theorem decides_text (cs : List Char) : Decides .content (foreign (escapedText cs)) .content ('{' ∉ cs) := by
  have hrun : Decides .content (foreign (escapedText cs)) .content ('{' ∉ escapedText cs) := by
    refine Decides.run (fun _ => rfl) fun c hc hopen => ?_
    have hne : c ≠ '<' := fun heq => bracket_notMem_escapedText cs (heq ▸ hc)
    simp [Place.next, hne, hopen]
  exact hrun.congr (not_congr (brace_mem_escapedText cs))

theorem decides_markedComment (data : List Char) :
    Decides .content (markedComment data) .content (¬['*', '/'] <:+: data) := by
  have hopen : Decides (.code false 0 .plain) (foreign ['/', '*']) (.code false 0 .comment) True :=
    Decides.of_eq rfl rfl
  have hclose : Decides (.code false 0 .star) [('/', true)] (.code false 0 .plain) True :=
    Decides.of_eq rfl rfl
  exact decides_markedBraces false rfl
    (hopen.between (decides_comment false 0 data).1 hclose)

theorem decides_startTag (options : ReactOptions) {tag : String} {attrs : Attributes}
    (hequals : '=' ∉ tag.toList) (hclose : '>' ∉ tag.toList) (hattrs : ∀ a ∈ attrs, IsClearAttribute a) :
    Decides .content (foreign ('<' :: tag.toList) ++ attrs.flatMap (markedAttribute options)) .tag
      ('{' ∉ tag.toList ∧ ∀ a ∈ attrs, '{' ∉ a.name.toList) := by
  have hname : Decides .content (foreign ('<' :: tag.toList)) .tag ('{' ∉ tag.toList) :=
    Decides.cons rfl (decides_name hequals hclose)
  exact hname.append (decides_attributes options hattrs)

theorem decides_endTag {tag : String} (hequals : '=' ∉ tag.toList) (hclose : '>' ∉ tag.toList) :
    Decides .content (foreign ('<' :: '/' :: tag.toList ++ ['>'])) .content ('{' ∉ tag.toList) := by
  have hopen : Decides .content (foreign ['<', '/']) .tag True := Decides.of_eq rfl rfl
  have hend : Decides .tag (foreign ['>']) .content True := Decides.of_eq rfl rfl
  have hwhole := hopen.between (decides_name hequals hclose) hend
  rw [← foreign_append, ← foreign_append] at hwhole
  exact hwhole

mutual

theorem decides_marked (options : ReactOptions) : ∀ n : Node, (∀ m ∈ (shown n).nodes, IsClear m) →
    Decides .content (marked options n) .content (∀ m ∈ (shown n).nodes, IsContained m)
  | .element tag attrs children space, h => by
    rw [marked]
    split_ifs with hvoid
    · rw [shown_of_void hvoid] at h ⊢
      obtain ⟨⟨⟨hequals, hclose⟩, hattrs⟩, -⟩ := forall_nodes_element.1 h
      have hstart := decides_startTag options hequals hclose hattrs
      have hend : Decides .tag (foreign [' ', '/', '>']) .content True := Decides.of_eq rfl rfl
      exact (hstart.append hend).congr (by simp [IsContained])
    · rw [shown_of_not_void hvoid] at h ⊢
      obtain ⟨⟨⟨hequals, hclose⟩, hattrs⟩, hbelow⟩ := forall_nodes_element.1 h
      have hstart := decides_startTag options hequals hclose hattrs
      have hend : Decides .tag (foreign ['>']) .content True := Decides.of_eq rfl rfl
      have hchildren := decides_markedAll options children hbelow
      have hwhole := ((hstart.append hend).append hchildren).append (decides_endTag hequals hclose)
      refine hwhole.congr ?_
      rw [forall_nodes_element, IsContained]
      tauto
  | .text value, _ => by
    refine (decides_text value.toList).congr ?_
    rw [shown, forall_nodes_text, IsContained]
  | .comment data, _ => by
    refine (decides_markedComment data.toList).congr ?_
    rw [shown, forall_nodes_comment, IsContained]

theorem decides_markedAll (options : ReactOptions) : ∀ ns : List Node,
    (∀ m ∈ nodesAll (shownAll ns), IsClear m) →
    Decides .content (markedAll options ns) .content (∀ m ∈ nodesAll (shownAll ns), IsContained m)
  | [], _ => (Decides.nil .content).congr (by simp [shownAll])
  | n :: ns, h => by
    obtain ⟨hn, hns⟩ := forall_nodesAll_cons.1 h
    exact ((decides_marked options n hn).append (decides_markedAll options ns hns)).congr
      forall_nodesAll_cons.symm

end

/-! ## Parsed trees -/

/-- No name holds an equals sign, and the property names of styles are plain. -/
def HasPlainNames : Node → Prop :=
  OnElement fun tag attrs => '=' ∉ tag.toList ∧
    ∀ a ∈ attrs, '=' ∉ a.name.toList ∧ (a.name = "style" → HasPlainKeys a.value.toList)

instance : DecidablePred HasPlainNames := fun n => inferInstanceAs (Decidable (OnElement _ n))

/-- No name of a parsed tree holds an angle bracket that would close the tag. -/
def HasClosedNames : Node → Prop :=
  OnElement fun tag attrs => '>' ∉ tag.toList ∧ ∀ a ∈ attrs, '>' ∉ a.name.toList

theorem bracket_notMem_of_readableTag {tag : List Char} (h : ReadableTag tag) : '>' ∉ tag :=
  fun hmem => absurd (h.continues '>' hmem) (by decide)

theorem bracket_notMem_of_readableName {name : List Char} (h : ReadableName name) : '>' ∉ name := by
  obtain ⟨c, cs, rfl, hc, hcs⟩ := h.starts
  intro hmem
  rcases List.mem_cons.1 hmem with rfl | hmem
  · exact absurd hc (by decide)
  · exact absurd (hcs '>' hmem) (by decide)

theorem hasClosedNames_of_parseFragment {text : String} {t : Fragment} (h : parseFragment text = .ok t) :
    ∀ n ∈ nodesAll t, HasClosedNames n := by
  have hgood : HoldsWhenPlaced fun _ => HasClosedNames := {
    text := fun _ _ => trivial
    comment := fun _ _ _ => trivial
    element := fun hletter hstart _ _ => ⟨bracket_notMem_of_readableTag (readableTag_of_startTag hletter hstart),
      fun a ha => bracket_notMem_of_readableName (readableName_of_startTag hstart ha)⟩ }
  exact everywhereBelow_const.1 (everywhereBelow_of_parseFragment hgood h)

theorem isClear_of_hasPlainNames {n : Node} (hclosed : HasClosedNames n) (hplain : HasPlainNames n) :
    IsClear n := by
  cases n with
  | element tag attrs children ns =>
    refine ⟨⟨hplain.1, hclosed.1⟩, fun a ha => ?_⟩
    exact ⟨(hplain.2 a ha).1, hclosed.2 a ha, (hplain.2 a ha).2⟩
  | text value => exact ⟨trivial, trivial⟩
  | comment data => exact ⟨trivial, trivial⟩

/-- In the component source of a parsed tree whose names are plain, whatever is read as the start of an
expression or as the end of a comment is one that the writer put there, exactly if, of the nodes that are
written, no text and no name holds an opening brace and no comment the end of one. -/
theorem hasOwnDelimiters_iff {text : String} {t : Fragment} (h : parseFragment text = .ok t)
    (hplain : ∀ n ∈ nodesAll (shownAll t), HasPlainNames n) (options : ReactOptions) :
    (markedAll options t).map Prod.fst = (renderAll (react options) t).toList ∧
      (HasOwnDelimiters .content (markedAll options t) ↔ ∀ n ∈ nodesAll (shownAll t), IsContained n) := by
  refine ⟨map_fst_markedAll options t, ?_⟩
  have hclosed := of_mem_shownAll (ignoresChildren_onElement _) t (hasClosedNames_of_parseFragment h)
  have hclear : ∀ n ∈ nodesAll (shownAll t), IsClear n := fun n hn => isClear_of_hasPlainNames
    (hclosed n hn) (hplain n hn)
  rw [← ownsDelimiters_iff]
  exact (decides_markedAll options t hclear).owns_iff

/-- Braces in values, in a style and in a comment, besides a number. -/
theorem hasOwnDelimiters_iff_values :
    let text := "<p title=\"\x7ba\x7d\" style=\"color: \x7b&quot;b\" width=3>x\x7d<!-- \x7bc* --></p>"
    let t : Fragment := [.element "p" [⟨"title", "\x7ba\x7d"⟩, ⟨"style", "color: \x7b\"b"⟩, ⟨"width", "3"⟩]
      [.text "x\x7d", .comment " \x7bc* "] none]
    parseFragment text = .ok t ∧ (∀ n ∈ nodesAll (shownAll t), HasPlainNames n) ∧
      (markedAll {} t).map Prod.fst = (renderAll (react {}) t).toList ∧
      (HasOwnDelimiters .content (markedAll {} t) ↔ ∀ n ∈ nodesAll (shownAll t), IsContained n) := by
  intro text t
  have hparse : parseFragment text = .ok t := by decide +kernel
  have hplain : ∀ n ∈ nodesAll (shownAll t), HasPlainNames n := by decide +kernel
  exact ⟨hparse, hplain, hasOwnDelimiters_iff hparse hplain {}⟩

/-- A brace in a text is read as the start of an expression, and the end of a comment in a comment leaves the
rest of it outside. -/
theorem not_hasOwnDelimiters :
    let call : Fragment := [.element "p" [] [.text "\x7balert(1)\x7d"] none]
    let comment : Fragment := [.comment "*/alert(1)/*"]
    (parseFragment "<p>\x7balert(1)\x7d</p>" = .ok call ∧
      renderAll (react {}) call = "<p>\x7balert(1)\x7d</p>" ∧
      (markedAll {} call).map Prod.fst = (renderAll (react {}) call).toList ∧
      ¬HasOwnDelimiters .content (markedAll {} call)) ∧
    parseFragment "<!--*/alert(1)/*-->" = .ok comment ∧
      renderAll (react {}) comment = "\x7b/**/alert(1)/**/\x7d" ∧
      (markedAll {} comment).map Prod.fst = (renderAll (react {}) comment).toList ∧
      ¬HasOwnDelimiters .content (markedAll {} comment) := by
  decide +kernel

end MarkupCleaner.Output
