import MarkupCleaner.Cleanup.Duplicate
import MarkupCleaner.Proofs.Cleanup.Edit

/-!
# Attribute names

Attributes whose names differ by more than case are all kept.
-/

namespace MarkupCleaner.Cleanup

open Node Live Live.Edit

/-- No two names agree but for case. -/
def DistinctNames (attrs : Attributes) : Prop :=
  (attrs.map fun a => Attributes.lowerName a.name).Nodup

theorem DistinctNames.sublist {attrs attrs' : Attributes} (h : DistinctNames attrs)
    (hsub : attrs'.Sublist attrs) : DistinctNames attrs' :=
  List.Nodup.sublist (hsub.map _) h

theorem DistinctNames.erase {attrs : Attributes} (h : DistinctNames attrs) (name : String) :
    DistinctNames (attrs.erase name) := h.sublist List.filter_sublist

theorem distinctAfter_eq_self {attrs : Attributes} (h : DistinctNames attrs) {seen : List String}
    (hseen : ∀ a ∈ attrs, Attributes.lowerName a.name ∉ seen) : distinctAfter seen attrs = attrs := by
  induction attrs generalizing seen with
  | nil => rfl
  | cons a attrs ih =>
    rw [DistinctNames, List.map_cons, List.nodup_cons] at h
    obtain ⟨hnew, hrest⟩ := h
    rw [distinctAfter]
    simp only [if_neg (hseen a List.mem_cons_self)]
    rw [ih hrest fun b hb => ?_]
    rw [List.mem_cons, not_or]
    refine ⟨fun heq => hnew ?_, hseen b (List.mem_cons_of_mem a hb)⟩
    exact List.mem_map.2 ⟨b, hb, heq⟩

/-- Attributes with distinct names are all kept. -/
theorem distinctAttributes_eq_self {attrs : Attributes} (h : DistinctNames attrs) :
    distinctAttributes attrs = attrs :=
  distinctAfter_eq_self h fun _ _ => List.not_mem_nil

/-- A node whose attributes have distinct names. -/
def HasDistinctNames : Node → Prop := OnElement fun _ attrs => DistinctNames attrs

/-- A tree without duplicate attributes is left as it is. -/
theorem distinctBelow_eq_self {ns : List Node} (h : ∀ n ∈ nodesAll ns, HasDistinctNames n) :
    distinctBelow ns = ns := by
  rw [← onAll_duplicateEdit]
  refine onAll_eq_self_of_onElement duplicateEdit (fun _ _ => rfl) (fun _ tag attrs hattrs => ?_) () h
  exact ⟨rfl, distinctAttributes_eq_self hattrs⟩

end MarkupCleaner.Cleanup
