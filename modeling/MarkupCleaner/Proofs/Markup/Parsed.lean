import MarkupCleaner.Markup.Parse
import MarkupCleaner.Proofs.Cleanup.Attributes
import MarkupCleaner.Proofs.Markup.Built
import MarkupCleaner.Proofs.Markup.StartTags

/-!
# What every parsed tree has

A property that nodes have by the way they are placed holds of all nodes of every parsed tree. One such
property is that no element has an attribute twice.
-/

namespace MarkupCleaner.Markup

open Node Cleanup

/-- What nodes have by the way they are placed holds of every node of a parsed tree. -/
theorem everywhereBelow_of_parseFragment {good : Bool → Node → Prop} (hgood : HoldsWhenPlaced good)
    {text : String} {t : Fragment} (h : parseFragment text = .ok t) : EverywhereBelow good false t := by
  unfold parseFragment parse at h
  cases hts : tokens text.toList with
  | error e =>
    rw [hts] at h
    cases h
  | ok ts =>
    rw [hts] at h
    obtain rfl := Except.ok.inj h
    obtain ⟨mode, hyields⟩ := yieldsAll_tokens hts
    exact everywhereBelow_ofTokens hgood hyields

/-- What start tags establish holds of every node of a parsed tree. -/
theorem forall_nodesAll_of_parseFragment {good : Node → Prop} (htext : ∀ value, good (.text value))
    (hcomment : ∀ data, good (.comment data))
    (helement : ∀ {cs rest tag attrs closed children}, startTag cs = .ok (.tag tag attrs closed rest) →
      (tag ∈ emptyElements → children = []) → good (.element tag attrs children none))
    {text : String} {t : Fragment} (h : parseFragment text = .ok t) : ∀ n ∈ nodesAll t, good n := by
  have hgood : HoldsWhenPlaced fun _ => good := {
    text := fun _ value => htext _
    comment := fun _ data _ => hcomment _
    element := fun _ hstart hempty _ => helement hstart hempty }
  exact everywhereBelow_const.1 (everywhereBelow_of_parseFragment hgood h)

/-! ## Attributes -/

theorem lowerName_of_startTag {cs : List Char} {tag : String} {attrs : List Attribute}
    {closed : Bool} {rest : List Char} (h : startTag cs = .ok (.tag tag attrs closed rest)) :
    ∀ a ∈ attrs, Attributes.lowerName a.name = a.name := by
  intro a ha
  obtain ⟨prev, ds, w, -, hname⟩ := exists_written_of_startTag h ha
  rw [hname, Attributes.lowerName, String.toList_ofList, Unicode.lower_lower]

/-- The names in a start tag are read in lower case, and of two that agree only the first is kept. -/
theorem distinctNames_of_startTag {cs : List Char} {tag : String} {attrs : List Attribute}
    {closed : Bool} {rest : List Char} (h : startTag cs = .ok (.tag tag attrs closed rest)) :
    DistinctNames attrs := by
  rw [DistinctNames, List.map_congr_left (lowerName_of_startTag h)]
  obtain ⟨-, -, -, written, -, rfl⟩ := startTag_spec h
  exact nodup_names_firstOfEachName written

/-- No element of a parsed tree has two attributes whose names agree but for case. -/
theorem hasDistinctNames_of_parseFragment {text : String} {t : Fragment}
    (h : parseFragment text = .ok t) : ∀ n ∈ nodesAll t, HasDistinctNames n := by
  exact forall_nodesAll_of_parseFragment (fun _ => trivial) (fun _ => trivial)
    (fun hstart _ => distinctNames_of_startTag hstart) h

end MarkupCleaner.Markup
