import MarkupCleaner.Proofs.Pipeline.Failures
import MarkupCleaner.Proofs.Pipeline.Presentable

/-!
# Attribute names in written tags

Attributes have distinct names in the tree that is written, but `class` and `classname` are written under
one name, and so are `for` and `htmlfor`. Two attributes of a tag are written under one name exactly if the
element has both spellings of one of these pairs. The class rules leave both spellings of the class
attribute only where neither holds a class token; nothing before the writing looks at the other pair.
-/

namespace MarkupCleaner.Pipeline

open Node Attributes Output

/-- The dialect in which a tree is written. -/
def dialect (options : PipelineOptions) : Dialect :=
  match options.output with
  | .html => html
  | .react => react options.react

/-- The name under which an attribute is written. -/
def printedName (options : PipelineOptions) (name : String) : String :=
  match options.output with
  | .html => htmlName name
  | .react => propertyName options.react name

/-- The names in the start tag of an element. An attribute without a name is not written. -/
def printedNames (options : PipelineOptions) (attrs : Attributes) : List String :=
  (attrs.names.map (printedName options)).filter (· ≠ "")

/-! ## Names in the text -/

/-- An attribute in a start tag, with a space before it. -/
def printedAttribute (written : String × String) : String := " " ++ written.1 ++ "=" ++ written.2

theorem writeAttribute_of_name_empty {options : PipelineOptions} {a : Attribute}
    (h : printedName options a.name = "") : (dialect options).writeAttribute a = "" := by
  unfold printedName at h
  unfold dialect
  cases houtput : options.output with
  | html =>
    rw [houtput] at h
    exact if_pos h
  | react =>
    rw [houtput] at h
    exact if_pos h

/-- An attribute is written with its name, an equals sign and its value. -/
theorem exists_writeAttribute {options : PipelineOptions} {a : Attribute}
    (h : printedName options a.name ≠ "") :
    ∃ value, (dialect options).writeAttribute a = printedAttribute (printedName options a.name, value) := by
  unfold printedName at h ⊢
  unfold dialect
  cases houtput : options.output with
  | html =>
    rw [houtput] at h
    refine ⟨"\"" ++ escapeValue a.value ++ "\"", (if_neg h).trans ?_⟩
    simp [printedAttribute, String.append_assoc, ← String.toList_inj]
  | react =>
    rw [houtput] at h
    have hwritten : (react options.react).writeAttribute a = reactAttribute options.react a := rfl
    rw [hwritten, reactAttribute]
    dsimp only
    rw [if_neg h]
    by_cases hstyle : propertyName options.react a.name = "style"
    · rw [if_pos hstyle, hstyle]
      exact ⟨_, rfl⟩
    · rw [if_neg hstyle]
      split
      · exact ⟨_, rfl⟩
      · refine ⟨"\"" ++ escapeValue a.value ++ "\"", ?_⟩
        simp [printedAttribute, String.append_assoc, ← String.toList_inj]

/-- What stands between the name of a tag and its end: the attributes under their printed names. -/
theorem exists_printedAttributes (options : PipelineOptions) (attrs : Attributes) :
    ∃ written : List (String × String), written.map Prod.fst = printedNames options attrs ∧
      String.join (attrs.map (dialect options).writeAttribute) = String.join (written.map printedAttribute) := by
  induction attrs with
  | nil => exact ⟨[], rfl, rfl⟩
  | cons a attrs ih =>
    obtain ⟨written, hnames, htext⟩ := ih
    unfold printedNames names at hnames ⊢
    by_cases hname : printedName options a.name = ""
    · refine ⟨written, ?_, ?_⟩
      · rw [hnames, List.map_cons, List.map_cons, List.filter_cons_of_neg (by simp [hname])]
      · rw [List.map_cons, String.join_cons, writeAttribute_of_name_empty hname, String.empty_append, htext]
    · obtain ⟨value, hvalue⟩ := exists_writeAttribute hname
      refine ⟨(printedName options a.name, value) :: written, ?_, ?_⟩
      · rw [List.map_cons, hnames, List.map_cons, List.map_cons, List.filter_cons_of_pos (by simp [hname])]
      · rw [List.map_cons, String.join_cons, hvalue, htext, List.map_cons, String.join_cons]

/-! ## Names that meet -/

/-- The two spellings of the class attribute. -/
def IsClassSpelling (name : String) : Prop := name = "class" ∨ name = "classname"

/-- The two spellings of the attribute that names the control of a label. -/
def IsLabelSpelling (name : String) : Prop := name = "for" ∨ name = "htmlfor"

/-- How names are printed in a dialect: both spellings of the class attribute in one form, both spellings
    of the other attribute in another, and everything else as it is. -/
structure PrintsSpellings (print : String → String) (classForm labelForm : String) : Prop where
  classForm_eq : classForm = "class" ∨ classForm = "className"
  labelForm_eq : labelForm = "for" ∨ labelForm = "htmlFor"
  class_eq : ∀ name, IsClassSpelling name → print name = classForm
  label_eq : ∀ name, IsLabelSpelling name → print name = labelForm
  other_eq : ∀ name, ¬IsClassSpelling name → ¬IsLabelSpelling name → print name = name

theorem printsSpellings_html : PrintsSpellings htmlName "class" "for" := by
  constructor
  case classForm_eq => exact Or.inl rfl
  case labelForm_eq => exact Or.inl rfl
  case class_eq => rintro name (rfl | rfl) <;> rfl
  case label_eq => rintro name (rfl | rfl) <;> rfl
  case other_eq =>
    intro name hclass hlabel
    rcases htmlName_cases name with heq | ⟨rfl, -⟩ | ⟨rfl, -⟩
    · exact heq
    · exact absurd (Or.inr rfl) hclass
    · exact absurd (Or.inr rfl) hlabel

theorem printsSpellings_react (options : ReactOptions) : PrintsSpellings (propertyName options)
    (if options.useClassName then "className" else "class") "htmlFor" := by
  constructor
  case classForm_eq =>
    cases options.useClassName with
    | true => exact Or.inr rfl
    | false => exact Or.inl rfl
  case labelForm_eq => exact Or.inr rfl
  case class_eq =>
    intro name hname
    cases huse : options.useClassName with
    | true => rcases hname with rfl | rfl <;> simp [propertyName, huse]
    | false => rcases hname with rfl | rfl <;> simp [propertyName, huse]
  case label_eq => rintro name (rfl | rfl) <;> simp [propertyName]
  case other_eq =>
    intro name hclass hlabel
    rw [IsClassSpelling, not_or] at hclass
    rw [IsLabelSpelling, not_or] at hlabel
    simp [propertyName, hclass, hlabel]

theorem exists_printsSpellings (options : PipelineOptions) :
    ∃ classForm labelForm, PrintsSpellings (printedName options) classForm labelForm := by
  unfold printedName
  cases options.output with
  | html => exact ⟨_, _, printsSpellings_html⟩
  | react => exact ⟨_, _, printsSpellings_react options.react⟩

/-- No name in lower case is one of the printed names that have a capital. -/
theorem ne_of_lowerName {name : String} (h : lowerName name = name) : name ≠ "className" ∧ name ≠ "htmlFor" := by
  constructor
  · rintro rfl
    exact absurd h (by decide)
  · rintro rfl
    exact absurd h (by decide)

namespace PrintsSpellings

variable {print : String → String} {classForm labelForm name other : String}
  (h : PrintsSpellings print classForm labelForm)

include h

theorem forms_ne : classForm ≠ labelForm := by
  rcases h.classForm_eq with rfl | rfl
  · rcases h.labelForm_eq with rfl | rfl <;> decide
  · rcases h.labelForm_eq with rfl | rfl <;> decide

/-- A name in lower case has the printed form of the class attribute only if it spells it. -/
theorem eq_classForm_iff (hlower : lowerName name = name) : print name = classForm ↔ IsClassSpelling name := by
  constructor
  · intro heq
    by_contra hclass
    by_cases hlabel : IsLabelSpelling name
    · exact h.forms_ne (heq.symm.trans (h.label_eq name hlabel))
    · rw [h.other_eq name hclass hlabel] at heq
      subst heq
      exact h.classForm_eq.elim (fun heq => hclass (Or.inl heq)) (ne_of_lowerName hlower).1
  · exact h.class_eq name

theorem eq_labelForm_iff (hlower : lowerName name = name) : print name = labelForm ↔ IsLabelSpelling name := by
  constructor
  · intro heq
    by_contra hlabel
    by_cases hclass : IsClassSpelling name
    · exact h.forms_ne ((h.class_eq name hclass).symm.trans heq)
    · rw [h.other_eq name hclass hlabel] at heq
      subst heq
      exact h.labelForm_eq.elim (fun heq => hlabel (Or.inl heq)) (ne_of_lowerName hlower).2
  · exact h.label_eq name

/-- Two names in lower case are printed alike if they are the same name, or spellings of one attribute. -/
theorem eq_iff (hlower : lowerName name = name) (hlower' : lowerName other = other) :
    print name = print other ↔ name = other ∨ (IsClassSpelling name ∧ IsClassSpelling other) ∨
      (IsLabelSpelling name ∧ IsLabelSpelling other) := by
  constructor
  · intro heq
    by_cases hclass : IsClassSpelling name
    · have hother : print other = classForm := heq.symm.trans (h.class_eq name hclass)
      exact Or.inr (Or.inl ⟨hclass, (h.eq_classForm_iff hlower').1 hother⟩)
    · by_cases hlabel : IsLabelSpelling name
      · have hother : print other = labelForm := heq.symm.trans (h.label_eq name hlabel)
        exact Or.inr (Or.inr ⟨hlabel, (h.eq_labelForm_iff hlower').1 hother⟩)
      · -- the other name is no spelling either, so that both are printed as they are
        have hclass' : ¬IsClassSpelling other := fun hother =>
          hclass ((h.eq_classForm_iff hlower).1 (heq.trans (h.class_eq other hother)))
        have hlabel' : ¬IsLabelSpelling other := fun hother =>
          hlabel ((h.eq_labelForm_iff hlower).1 (heq.trans (h.label_eq other hother)))
        rw [h.other_eq name hclass hlabel, h.other_eq other hclass' hlabel'] at heq
        exact Or.inl heq
  · rintro (rfl | ⟨hname, hother⟩ | ⟨hname, hother⟩)
    · rfl
    · rw [h.class_eq name hname, h.class_eq other hother]
    · rw [h.label_eq name hname, h.label_eq other hother]

theorem print_ne_empty (hname : IsClassSpelling name ∨ IsLabelSpelling name) : print name ≠ "" := by
  rcases hname with hname | hname
  · rw [h.class_eq name hname]
    rcases h.classForm_eq with rfl | rfl <;> decide
  · rw [h.label_eq name hname]
    rcases h.labelForm_eq with rfl | rfl <;> decide

end PrintsSpellings

/-- Proper names are printed as distinct ones exactly if no two of them are spellings of one attribute. -/
theorem nodup_printedNames_iff (options : PipelineOptions) {attrs : Attributes} (h : Proper attrs.names) :
    (printedNames options attrs).Nodup ↔ ¬("class" ∈ attrs.names ∧ "classname" ∈ attrs.names) ∧
      ¬("for" ∈ attrs.names ∧ "htmlfor" ∈ attrs.names) := by
  obtain ⟨classForm, labelForm, hprint⟩ := exists_printsSpellings options
  unfold printedNames
  rw [List.filter_map, List.nodup_map_iff_inj_on (h.distinct.sublist List.filter_sublist)]
  simp only [List.mem_filter, Function.comp_apply, decide_eq_true_eq]
  constructor
  · intro hinj
    constructor
    · rintro ⟨hclass, hclassname⟩
      have heq := hinj "class" ⟨hclass, hprint.print_ne_empty (Or.inl (Or.inl rfl))⟩ "classname"
        ⟨hclassname, hprint.print_ne_empty (Or.inl (Or.inr rfl))⟩
        ((hprint.class_eq _ (Or.inl rfl)).trans (hprint.class_eq _ (Or.inr rfl)).symm)
      exact absurd heq (by decide)
    · rintro ⟨hfor, hhtmlfor⟩
      have heq := hinj "for" ⟨hfor, hprint.print_ne_empty (Or.inr (Or.inl rfl))⟩ "htmlfor"
        ⟨hhtmlfor, hprint.print_ne_empty (Or.inr (Or.inr rfl))⟩
        ((hprint.label_eq _ (Or.inl rfl)).trans (hprint.label_eq _ (Or.inr rfl)).symm)
      exact absurd heq (by decide)
  · rintro ⟨hclass, hlabel⟩ name ⟨hname, -⟩ other ⟨hother, -⟩ heq
    rcases (hprint.eq_iff (h.lower name hname) (h.lower other hother)).1 heq with
      rfl | ⟨rfl | rfl, rfl | rfl⟩ | ⟨rfl | rfl, rfl | rfl⟩
    · rfl
    · rfl
    · exact absurd ⟨hname, hother⟩ hclass
    · exact absurd ⟨hother, hname⟩ hclass
    · rfl
    · rfl
    · exact absurd ⟨hname, hother⟩ hlabel
    · exact absurd ⟨hother, hname⟩ hlabel
    · rfl

/-! ## The written tree -/

/-- The start tag of an element with these attributes: the names that stand in it are the printed ones, and
    they are distinct unless the element has both spellings of an attribute. Both spellings of the class
    attribute are there only without class tokens. -/
structure StartTagNames (options : PipelineOptions) (attrs : Attributes) : Prop where
  written : ∃ written : List (String × String), written.map Prod.fst = printedNames options attrs ∧
    String.join (attrs.map (dialect options).writeAttribute) = String.join (written.map printedAttribute)
  distinct : (printedNames options attrs).Nodup ↔
    ¬("class" ∈ attrs.names ∧ "classname" ∈ attrs.names) ∧ ¬("for" ∈ attrs.names ∧ "htmlfor" ∈ attrs.names)
  blank : "class" ∈ attrs.names → "classname" ∈ attrs.names → attrs.classTokens = []

theorem isSound_of_writtenTree {options : PipelineOptions} {text : String} {t : Fragment}
    (h : writtenTree options text = .ok t) : ∀ n ∈ nodesAll t, IsSound n ∧ HasOneClassAttribute n := by
  obtain ⟨tree, htree, fixed, hfixed, e, -, happly⟩ := writtenTree_eq_ok_iff.1 h
  have hclean := isSound_of_mem_cleanup options.cleanup (isSound_of_parseFragment htree)
  exact isSound_of_mem_applyBelow (isSound_of_mem_replaceBelow hclean hfixed) happly

theorem startTagNames_of_isSound (options : PipelineOptions) {n : Node} (h : IsSound n)
    (hclass : HasOneClassAttribute n) : OnElement (fun _ attrs => StartTagNames options attrs) n := by
  cases n with
  | element tag attrs children ns =>
    constructor
    case written => exact exists_printedAttributes options attrs
    case distinct => exact nodup_printedNames_iff options h
    case blank =>
      intro hfirst hsecond
      by_contra hne
      rcases hclass hne with ⟨-, hnot⟩ | ⟨hnot, -⟩
      · exact hnot hsecond
      · exact hnot hfirst
  | text value => trivial
  | comment data => trivial

/-- An output that is not formatted is the written form of a tree, and a start tag in it has two attributes
    of one name exactly if its element has both `class` and `classname`, then without a class token, or both
    `for` and `htmlfor`. -/
theorem run_startTagNames (f : Formatter) (outcome : Formatter.Outcome) {options : PipelineOptions}
    (hformat : options.format = false) {text output : String}
    (h : (run f outcome options text).output = .ok output) :
    ∃ t, writtenTree options text = .ok t ∧ output = render options t ∧
      ∀ n ∈ nodesAll t, OnElement (fun _ attrs => StartTagNames options attrs) n := by
  obtain ⟨t, ht, houtput⟩ := exists_writtenTree_of_run hformat h
  refine ⟨t, ht, houtput, fun n hn => ?_⟩
  obtain ⟨hsound, hclass⟩ := isSound_of_writtenTree ht n hn
  exact startTagNames_of_isSound options hsound hclass

/-- A component whose element had one class attribute in both spellings and has one now. -/
theorem run_startTagNames_merged :
    let options : PipelineOptions := { output := .react, react := { wrapComponent := false } }
    let text := "<label classname=b class=a for=c>x</label>"
    let output := "<label className=\"a b\" htmlFor=\"c\">x</label>"
    options.format = false ∧ (run {} .missing options text).output = .ok output ∧
      ∃ t, writtenTree options text = .ok t ∧ output = render options t ∧
        ∀ n ∈ nodesAll t, OnElement (fun _ attrs => StartTagNames options attrs) n := by
  intro options text output
  have hrun : (run {} .missing options text).output = .ok output := by decide +kernel
  exact ⟨rfl, hrun, run_startTagNames {} .missing rfl hrun⟩

/-- Both spellings of an attribute in one start tag, and one name twice in what is written: in HTML for a
    label, and in a component for an element without class tokens. -/
theorem run_repeats_name :
    let label : Attributes := [⟨"for", "a"⟩, ⟨"htmlfor", "b"⟩]
    let blank : Attributes := [⟨"class", ""⟩, ⟨"classname", " "⟩]
    let component : PipelineOptions := { output := .react, react := { wrapComponent := false } }
    (writtenTree {} "<label for=a htmlfor=b>x</label>" = .ok [.element "label" label [.text "x"] none] ∧
      (run {} .missing {} "<label for=a htmlfor=b>x</label>").output =
        .ok "<label for=\"a\" for=\"b\">x</label>" ∧
      ¬(printedNames {} label).Nodup) ∧
    writtenTree component "<p class classname=' '>x</p>" = .ok [.element "p" blank [.text "x"] none] ∧
      (run {} .missing component "<p class classname=' '>x</p>").output =
        .ok "<p className=\"\" className=\" \">x</p>" ∧
      ¬(printedNames component blank).Nodup := by
  decide +kernel

end MarkupCleaner.Pipeline
