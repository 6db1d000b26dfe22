import MarkupCleaner.Proofs.Tree.AttributeNames
import MarkupCleaner.Proofs.Tree.ClassTokens

/-!
# Writing class tokens back

Two spellings of one attribute are read together, and tokens are written to one of them: to `class` unless
only `classname` is in use. The value goes to the place of that spelling, the other spelling is dropped and
no other attribute is touched. Tokens that can be read, distinct words, are read again as they are.
-/

namespace MarkupCleaner.Attributes

/-- The attributes that are no spelling of the class attribute. -/
def others (attrs : Attributes) : Attributes :=
  attrs.filter fun a => a.name ≠ "class" ∧ a.name ≠ "classname"

/-- How a class value is written: to `class` if that is in use, else to `classname` if that is in use, both
    times in the old place, or else to a new attribute at the end. -/
inductive WritesClass (value : String) : Attributes → Attributes → Prop where
  | asClass (before after : Attributes) (old : String) :
    WritesClass value (before ++ ⟨"class", old⟩ :: after) (others before ++ ⟨"class", value⟩ :: others after)
  | asClassname (before after : Attributes) (old : String) (hbefore : "class" ∉ before.names)
      (hafter : "class" ∉ after.names) :
    WritesClass value (before ++ ⟨"classname", old⟩ :: after)
      (others before ++ ⟨"classname", value⟩ :: others after)
  | added (attrs : Attributes) (hclass : "class" ∉ attrs.names) (hclassname : "classname" ∉ attrs.names) :
    WritesClass value attrs (attrs ++ [⟨"class", value⟩])

/-- What tokens that have been written leave behind: they are read again, one spelling of the class attribute
    is left, it stands where it has to, and the other attributes are the same in the same order. -/
structure IsWrittenBack (attrs : Attributes) (tokens : List String) (out : Attributes) : Prop where
  read : out.classTokens = tokens
  oneSpelling : HasOneSpelling out
  placed : WritesClass (" ".intercalate tokens) attrs out
  others : others out = others attrs

/-! ## The place of the value -/

theorem has_iff {attrs : Attributes} {name : String} : attrs.has name = true ↔ name ∈ attrs.names := by
  simp [has, names]

theorem names_append_cons (before : Attributes) (a : Attribute) (after : Attributes) :
    names (before ++ a :: after) = before.names ++ a.name :: after.names := by
  simp [names]

/-- Where an attribute stands that is in use. -/
theorem exists_of_mem_names {attrs : Attributes} {name : String} (h : name ∈ attrs.names) :
    ∃ before old after, attrs = before ++ ⟨name, old⟩ :: after := by
  obtain ⟨a, ha, rfl⟩ := List.mem_map.1 h
  obtain ⟨before, after, rfl⟩ := List.append_of_mem ha
  exact ⟨before, a.value, after, rfl⟩

theorem write_of_notMem {attrs : Attributes} {name : String} (h : name ∉ attrs.names) (value : String) :
    attrs.write name value = attrs ++ [⟨name, value⟩] := by
  induction attrs with
  | nil => rfl
  | cons a attrs ih =>
    rw [names, List.map_cons, List.mem_cons, not_or] at h
    rw [write, if_neg (Ne.symm h.1), ih h.2, List.cons_append]

/-- A value is written in place of the old one. -/
theorem write_append_cons {before : Attributes} {name : String} (h : name ∉ before.names) (old value : String)
    (after : Attributes) :
    (before ++ ⟨name, old⟩ :: after).write name value = before ++ ⟨name, value⟩ :: after := by
  induction before with
  | nil => simp [write]
  | cons a before ih =>
    rw [names, List.map_cons, List.mem_cons, not_or] at h
    rw [List.cons_append, write, if_neg (Ne.symm h.1), ih h.2, List.cons_append]

theorem others_append (before after : Attributes) : others (before ++ after) = others before ++ others after :=
  List.filter_append _ _

/-- The two spellings of the class attribute, in either order. -/
def AreSpellings (name other : String) : Prop :=
  (name = "class" ∧ other = "classname") ∨ (name = "classname" ∧ other = "class")

section

variable {attrs : Attributes} {name other : String}

/-- Without one spelling the attributes are the other ones if the second spelling is not in use. -/
theorem erase_eq_others (hspellings : AreSpellings name other) (h : name ∉ attrs.names) :
    attrs.erase other = attrs.others := by
  refine List.filter_congr fun a ha => ?_
  have hne : a.name ≠ name := by
    intro heq
    exact h (List.mem_map.2 ⟨a, ha, heq⟩)
  rcases hspellings with ⟨rfl, rfl⟩ | ⟨rfl, rfl⟩
  · simp [lowerName_classname, hne]
  · simp [lowerName_class, hne]

/-- The value stands in the old place of its spelling, and the other spelling is dropped. -/
theorem erase_write_append_cons (hspellings : AreSpellings name other) {before after : Attributes}
    (hbefore : name ∉ before.names) (hafter : name ∉ after.names) (old value : String) :
    ((before ++ ⟨name, old⟩ :: after).write name value).erase other =
      others before ++ ⟨name, value⟩ :: others after := by
  have hkept : decide (name ≠ lowerName other) = true := by
    rcases hspellings with ⟨rfl, rfl⟩ | ⟨rfl, rfl⟩
    · decide
    · decide
  rw [write_append_cons hbefore, ← erase_eq_others hspellings hbefore, ← erase_eq_others hspellings hafter]
  simp only [erase, List.filter_append, List.filter_cons, hkept, if_true]

/-- A spelling in use has one place, and there the value is written. -/
theorem exists_erase_write (hspellings : AreSpellings name other) (hnames : attrs.names.Nodup)
    (hname : name ∈ attrs.names) (value : String) : ∃ before old after,
      attrs = before ++ ⟨name, old⟩ :: after ∧
        (attrs.write name value).erase other = others before ++ ⟨name, value⟩ :: others after := by
  obtain ⟨before, old, after, rfl⟩ := exists_of_mem_names hname
  rw [names_append_cons, List.nodup_middle, List.nodup_cons, List.mem_append, not_or] at hnames
  obtain ⟨⟨hbefore, hafter⟩, -⟩ := hnames
  exact ⟨before, old, after, rfl, erase_write_append_cons hspellings hbefore hafter old value⟩

/-- Without either spelling the value comes last. -/
theorem erase_write_of_notMem (hclass : "class" ∉ attrs.names) (hclassname : "classname" ∉ attrs.names)
    (value : String) : (attrs.write "class" value).erase "classname" = attrs ++ [⟨"class", value⟩] := by
  have hnew : "class" ≠ "classname" := by decide
  rw [write_of_notMem hclass, erase, lowerName_classname, List.filter_eq_self]
  intro a ha
  rcases List.mem_append.1 ha with ha | ha
  · exact decide_eq_true fun heq => hclassname (List.mem_map.2 ⟨a, ha, heq⟩)
  · obtain rfl := List.mem_singleton.1 ha
    exact decide_eq_true hnew

end

theorem setClassTokens_nil (attrs : Attributes) : attrs.setClassTokens [] = attrs.others := by
  have hempty : ([] : List String).isEmpty = true := rfl
  rw [setClassTokens, if_pos hempty, erase, erase, lowerName_class, lowerName_classname, List.filter_filter,
    others]
  refine List.filter_congr fun a _ => ?_
  simp [Bool.and_comm]

variable {attrs : Attributes} {tokens : List String}

/-- Tokens are written to the spelling in use, in its place. -/
theorem writesClass_setClassTokens (hnames : attrs.names.Nodup) (hne : tokens ≠ []) :
    WritesClass (" ".intercalate tokens) attrs (attrs.setClassTokens tokens) := by
  have hempty : ¬tokens.isEmpty := by simpa using hne
  rw [setClassTokens, if_neg hempty]
  by_cases hclass : "class" ∈ attrs.names
  · have hspelling : attrs.classSpelling? = some "class" := by
      rw [classSpelling?, if_pos (has_iff.2 hclass)]
    obtain ⟨before, old, after, rfl, hwritten⟩ :=
      exists_erase_write (.inl ⟨rfl, rfl⟩) hnames hclass (" ".intercalate tokens)
    simp only [hspelling, hwritten]
    exact .asClass before after old
  · have hhas : ¬attrs.has "class" := fun h => hclass (has_iff.1 h)
    by_cases hclassname : "classname" ∈ attrs.names
    · have hspelling : attrs.classSpelling? = some "classname" := by
        rw [classSpelling?, if_neg hhas, if_pos (has_iff.2 hclassname)]
      obtain ⟨before, old, after, rfl, hwritten⟩ :=
        exists_erase_write (.inr ⟨rfl, rfl⟩) hnames hclassname (" ".intercalate tokens)
      rw [names_append_cons, List.mem_append, List.mem_cons, not_or, not_or] at hclass
      simp only [hspelling, hwritten]
      exact .asClassname before after old hclass.1 hclass.2.2
    · have hspelling : attrs.classSpelling? = none := by
        rw [classSpelling?, if_neg hhas, if_neg fun h => hclassname (has_iff.1 h)]
      simp only [hspelling, erase_write_of_notMem hclass hclassname]
      exact .added attrs hclass hclassname

theorem WritesClass.others_eq {value : String} {out : Attributes} (h : WritesClass value attrs out) :
    others out = others attrs := by
  have hidem (attrs : Attributes) : others (others attrs) = others attrs := by
    rw [others, others, List.filter_filter]
    simp
  cases h with
  | asClass before after old =>
    rw [others_append, others_append, hidem]
    simp [others]
  | asClassname before after old =>
    rw [others_append, others_append, hidem]
    simp [others]
  | added _ hclass hclassname =>
    rw [others_append]
    simp [others]

/-! ## What is read -/

theorem classValues_eq (attrs : Attributes) :
    attrs.classValues = (attrs.value? "class").toList ++ (attrs.value? "classname").toList := by
  unfold classValues
  cases attrs.value? "class" <;> cases attrs.value? "classname" <;> rfl

/-- The tokens that are read are the distinct words of both values, each at its first place. -/
theorem classTokens_eq_eraseDups (attrs : Attributes) :
    attrs.classTokens = (attrs.classValues.flatMap wordsOf).eraseDups := by
  rw [classTokens_eq, distinctTokens_eq_filter, List.filter_eq_self]
  intro token htoken
  obtain ⟨value, -, hword⟩ := List.mem_flatMap.1 (List.mem_eraseDups.1 htoken)
  obtain ⟨cs, hcs, rfl⟩ := List.mem_map.1 hword
  have hcs : cs ≠ [] := by simpa using (List.mem_filter.1 hcs).2
  simpa using hcs

theorem isOneWord_of_mem_classTokens {token : String} (h : token ∈ attrs.classTokens) :
    token ≠ "" ∧ isOneWord token = true := by
  obtain ⟨⟨value, -, hword⟩, hne⟩ := mem_classTokens.1 h
  exact ⟨hne, isOneWord_of_mem_wordsOf hword⟩

/-- Distinct words are read again after they have been written. -/
theorem classTokens_setClassTokens_eq_self (hdistinct : tokens.Nodup)
    (hwords : ∀ token ∈ tokens, token ≠ "" ∧ isOneWord token = true) :
    (attrs.setClassTokens tokens).classTokens = tokens := by
  have hempty : "" ∉ tokens := fun h => (hwords "" h).1 rfl
  rw [classTokens_setClassTokens, distinctTokens_flatMap_wordsOf_eq_self_iff hdistinct hempty]
  intro token htoken
  exact (hwords token htoken).2

/-- Reading and writing the class attribute. Distinct words that are written, at least one, are read again as
    they are; they stand in the place of the spelling in use, `class` before `classname`, or in a new `class`
    at the end, the other spelling is gone and all other attributes are the same in the same order. Writing
    none drops both spellings and nothing else. What is read are, of any attributes, the words of the `class`
    value and then those of the `classname` value, each at its first place: distinct, not empty and without
    white space. Writing what is read changes nothing in what is read. -/
theorem classAttribute_lawful (attrs : Attributes) :
    (∀ tokens, attrs.names.Nodup → tokens ≠ [] → tokens.Nodup →
        (∀ token ∈ tokens, token ≠ "" ∧ isOneWord token = true) →
        IsWrittenBack attrs tokens (attrs.setClassTokens tokens)) ∧
      attrs.setClassTokens [] = attrs.others ∧
      attrs.classTokens.Nodup ∧
      (∀ token ∈ attrs.classTokens, token ≠ "" ∧ isOneWord token = true) ∧
      attrs.classTokens = (((attrs.value? "class").toList ++ (attrs.value? "classname").toList).flatMap
        fun value => ((value.toList.splitOnP Text.isBlankChar).filter (!·.isEmpty)).map String.ofList).eraseDups ∧
      (attrs.setClassTokens attrs.classTokens).classTokens = attrs.classTokens := by
  have hdistinct : attrs.classTokens.Nodup := by
    rw [classTokens_eq]
    exact nodup_distinctTokens _
  have hwords : ∀ token ∈ attrs.classTokens, token ≠ "" ∧ isOneWord token = true := by
    intro token htoken
    exact isOneWord_of_mem_classTokens htoken
  refine ⟨?written, setClassTokens_nil attrs, hdistinct, hwords, ?words,
    classTokens_setClassTokens_eq_self hdistinct hwords⟩
  case written =>
    intro tokens hnames hne hnodup htokens
    have hplaced := writesClass_setClassTokens hnames hne
    exact ⟨classTokens_setClassTokens_eq_self hnodup htokens, hasOneSpelling_setClassTokens hne, hplaced,
      hplaced.others_eq⟩
  case words =>
    rw [classTokens_eq_eraseDups, classValues_eq]
    refine congrArg List.eraseDups (congrArg (List.flatMap · _) (funext fun value => ?_))
    rw [wordsOf, Text.words, Text.pieces_eq_splitOnP]

/-- Both spellings are in use with a word in common: two words are written to the place of `class`, which is
    the second one. -/
theorem classAttribute_lawful_both :
    let attrs : Attributes := [⟨"classname", "a b"⟩, ⟨"id", "x"⟩, ⟨"class", " b\u00a0c "⟩, ⟨"title", ""⟩]
    attrs.names.Nodup ∧ (["q", "b"] : List String).Nodup ∧ attrs.classTokens = ["b", "c", "a"] ∧
      attrs.setClassTokens ["q", "b"] = [⟨"id", "x"⟩, ⟨"class", "q b"⟩, ⟨"title", ""⟩] ∧
      IsWrittenBack attrs ["q", "b"] [⟨"id", "x"⟩, ⟨"class", "q b"⟩, ⟨"title", ""⟩] := by
  intro attrs
  have hnames : attrs.names.Nodup := by decide
  have hout : attrs.setClassTokens ["q", "b"] = [⟨"id", "x"⟩, ⟨"class", "q b"⟩, ⟨"title", ""⟩] := by
    decide
  have hwritten := (classAttribute_lawful attrs).1 ["q", "b"] hnames (by decide) (by decide) (by decide)
  rw [hout] at hwritten
  exact ⟨hnames, by decide, by decide, hout, hwritten⟩

end MarkupCleaner.Attributes
