import Mathlib.Data.List.Nodup
import Mathlib.Tactic.Common
import MarkupCleaner.Tree.Attribute

/-!
# Names of attributes

Names are proper if they are distinct and in lower case. Writing and dropping attributes keeps them so, and
when class tokens are written one of the two spellings of the class attribute is left.
-/

namespace MarkupCleaner.Attributes

/-- The names of some attributes. -/
def names (attrs : Attributes) : List String := attrs.map Attribute.name

/-- Names of which no two are the same and each is in lower case. -/
structure Proper (names : List String) : Prop where
  distinct : names.Nodup
  lower : ∀ name ∈ names, lowerName name = name

instance : DecidablePred Proper := fun names =>
  decidable_of_iff (names.Nodup ∧ ∀ name ∈ names, lowerName name = name)
    ⟨fun h => ⟨h.1, h.2⟩, fun h => ⟨h.1, h.2⟩⟩

theorem Proper.sublist {names names' : List String} (h : Proper names) (hsub : names'.Sublist names) :
    Proper names' := by
  constructor
  case distinct => exact h.distinct.sublist hsub
  case lower =>
    intro name hname
    exact h.lower name (hsub.subset hname)

theorem Proper.append {names names' : List String} (h : Proper names) (h' : Proper names')
    (hdisjoint : ∀ name ∈ names, name ∉ names') : Proper (names ++ names') := by
  constructor
  case distinct =>
    exact List.nodup_append'.2 ⟨h.distinct, h'.distinct, fun _ hname => hdisjoint _ hname⟩
  case lower =>
    intro name hname
    rcases List.mem_append.1 hname with hname | hname
    · exact h.lower name hname
    · exact h'.lower name hname

theorem Proper.perm {names names' : List String} (h : Proper names) (hperm : names'.Perm names) :
    Proper names' := by
  constructor
  case distinct => exact hperm.nodup_iff.2 h.distinct
  case lower =>
    intro name hname
    exact h.lower name (hperm.subset hname)

theorem names_sublist {attrs attrs' : Attributes} (h : attrs'.Sublist attrs) :
    attrs'.names.Sublist attrs.names := h.map _

theorem erase_sublist (attrs : Attributes) (name : String) : (attrs.erase name).Sublist attrs :=
  List.filter_sublist

/-! ## Writing -/

/-- A name that is new is added at the end. -/
theorem names_write (attrs : Attributes) (name value : String) : (attrs.write name value).names =
    if name ∈ attrs.names then attrs.names else attrs.names ++ [name] := by
  induction attrs with
  | nil => rfl
  | cons a attrs ih =>
    unfold names at ih ⊢
    rw [write]
    by_cases ha : a.name = name
    · have hmem : name ∈ (a :: attrs).map Attribute.name := List.mem_cons.2 (Or.inl ha.symm)
      rw [if_pos ha, if_pos hmem, List.map_cons, List.map_cons]
    · have hmem : name ∈ (a :: attrs).map Attribute.name ↔ name ∈ attrs.map Attribute.name := by
        rw [List.map_cons, List.mem_cons, or_iff_right (Ne.symm ha)]
      rw [if_neg ha, List.map_cons, ih]
      by_cases hrest : name ∈ attrs.map Attribute.name
      · rw [if_pos hrest, if_pos (hmem.2 hrest), List.map_cons]
      · rw [if_neg hrest, if_neg fun h => hrest (hmem.1 h), List.map_cons, List.cons_append]

theorem Proper.write {attrs : Attributes} (h : Proper attrs.names) {name : String}
    (hlower : lowerName name = name) (value : String) : Proper (attrs.write name value).names := by
  rw [names_write]
  by_cases hmem : name ∈ attrs.names
  · rw [if_pos hmem]
    exact h
  · rw [if_neg hmem]
    have hname : Proper [name] := ⟨List.nodup_singleton name, List.forall_mem_singleton.2 hlower⟩
    refine h.append hname ?_
    rintro other hother hmem'
    obtain rfl := List.mem_singleton.1 hmem'
    exact hmem hother

theorem mem_names_write (attrs : Attributes) (name value : String) : name ∈ (attrs.write name value).names := by
  rw [names_write]
  by_cases hmem : name ∈ attrs.names
  · rw [if_pos hmem]
    exact hmem
  · rw [if_neg hmem]
    simp

theorem mem_names_erase {attrs : Attributes} {name other : String} (hlower : lowerName name = name) :
    other ∈ (attrs.erase name).names ↔ other ∈ attrs.names ∧ other ≠ name := by
  unfold names erase
  rw [hlower]
  simp only [List.mem_map, List.mem_filter, decide_eq_true_eq]
  constructor
  · rintro ⟨a, ⟨ha, hne⟩, rfl⟩
    exact ⟨⟨a, ha, rfl⟩, hne⟩
  · rintro ⟨⟨a, ha, rfl⟩, hne⟩
    exact ⟨a, ⟨ha, hne⟩, rfl⟩

/-! ## The class attribute -/

/-- Attributes with exactly one of the two spellings of the class attribute. -/
def HasOneSpelling (attrs : Attributes) : Prop :=
  ("class" ∈ attrs.names ∧ "classname" ∉ attrs.names) ∨ ("class" ∉ attrs.names ∧ "classname" ∈ attrs.names)

section

variable {attrs : Attributes} {tokens : List String}

theorem lowerName_class : lowerName "class" = "class" := by decide

theorem lowerName_classname : lowerName "classname" = "classname" := by decide

theorem Proper.setClassTokens (h : Proper attrs.names) (tokens : List String) :
    Proper (attrs.setClassTokens tokens).names := by
  rw [Attributes.setClassTokens]
  by_cases hnil : tokens.isEmpty
  · rw [if_pos hnil]
    exact h.sublist (names_sublist ((erase_sublist _ _).trans (erase_sublist _ _)))
  · rw [if_neg hnil]
    split
    · exact (h.write lowerName_classname _).sublist (names_sublist (erase_sublist _ _))
    · exact (h.write lowerName_class _).sublist (names_sublist (erase_sublist _ _))

/-- Tokens are written under one spelling, and the other one is dropped. -/
theorem hasOneSpelling_setClassTokens (h : tokens ≠ []) : HasOneSpelling (attrs.setClassTokens tokens) := by
  have hnil : ¬tokens.isEmpty := fun hempty => h (List.isEmpty_iff.1 hempty)
  unfold HasOneSpelling
  rw [setClassTokens, if_neg hnil]
  split
  · refine Or.inr ⟨fun hmem => ?_, ?_⟩
    · exact ((mem_names_erase lowerName_class).1 hmem).2 rfl
    · exact (mem_names_erase lowerName_class).2 ⟨mem_names_write _ _ _, by decide⟩
  · refine Or.inl ⟨?_, fun hmem => ?_⟩
    · exact (mem_names_erase lowerName_classname).2 ⟨mem_names_write _ _ _, by decide⟩
    · exact ((mem_names_erase lowerName_classname).1 hmem).2 rfl

end

end MarkupCleaner.Attributes
