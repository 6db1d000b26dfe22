import MarkupCleaner.Proofs.Data.Except
import MarkupCleaner.Proofs.Markup.Reading

/-!
# What a start tag is read as

The name of a tag and the names of its attributes are read in lower case, and of several attributes of one
name the first is kept. All these names can be read back from written tags.
-/

namespace MarkupCleaner.Markup

/-! ## Start tags -/

/-- The name of a start tag goes up to a character that ends it, and its attributes are the first ones of
    each name that are written after it. -/
theorem startTag_spec {cs : List Char} {tag : String} {attrs : List Attribute} {closed : Bool}
    {rest : List Char} (h : startTag cs = .ok (.tag tag attrs closed rest)) :
    tag = .ofList (Unicode.lower (cs.takeWhile fun c => !endsTagName c)) ∧
      ∃ prev ds written, (writtenAttributes prev ds).1.mapM WrittenAttribute.decode = .ok written ∧
        attrs = firstOfEachName written := by
  unfold startTag at h
  dsimp only at h
  split at h
  · cases h
  · split at h
    · cases h
    · simp only [bind, Except.bind] at h
      split at h
      · cases h
      · next written hwritten =>
        split at h <;> cases h <;> exact ⟨rfl, _, _, written, hwritten, rfl⟩

theorem nodup_names_firstOfEachName (attrs : List Attribute) :
    ((firstOfEachName attrs).map Attribute.name).Nodup := by
  induction attrs with
  | nil => exact List.nodup_nil
  | cons a attrs ih =>
    rw [firstOfEachName, List.map_cons, List.nodup_cons]
    refine ⟨fun hmem => ?_, ih.sublist (List.filter_sublist.map _)⟩
    obtain ⟨b, hb, heq⟩ := List.mem_map.1 hmem
    simp only [List.mem_filter, decide_eq_true_eq] at hb
    exact hb.2 heq

theorem firstOfEachName_sublist (attrs : List Attribute) : (firstOfEachName attrs).Sublist attrs := by
  induction attrs with
  | nil => exact List.Sublist.refl _
  | cons a attrs ih => exact (List.filter_sublist.trans ih).cons_cons a

theorem name_decode {w : WrittenAttribute} {a : Attribute} (h : w.decode = .ok a) :
    a.name = .ofList (Unicode.lower w.name) := by
  unfold WrittenAttribute.decode at h
  cases hvalue : decodeValue (w.value.getD []) with
  | error e =>
    rw [hvalue] at h
    cases h
  | ok value =>
    rw [hvalue] at h
    obtain rfl := Except.ok.inj h
    rfl

/-- Every attribute of a start tag was written in it, its name in any case. -/
theorem exists_written_of_startTag {cs : List Char} {tag : String} {attrs : List Attribute}
    {closed : Bool} {rest : List Char} (h : startTag cs = .ok (.tag tag attrs closed rest)) {a : Attribute}
    (ha : a ∈ attrs) : ∃ prev ds, ∃ w ∈ (writtenAttributes prev ds).1,
      a.name = .ofList (Unicode.lower w.name) := by
  obtain ⟨-, prev, ds, written, hdecode, rfl⟩ := startTag_spec h
  obtain ⟨w, hw, ha⟩ := (mem_of_mapM_eq_ok hdecode).1 ((firstOfEachName_sublist written).subset ha)
  exact ⟨prev, ds, w, hw, name_decode ha⟩

/-! ## Names of tags -/

theorem isAsciiLetter_simpleLower {c : Char} (h : isAsciiLetter c = true) :
    isAsciiLetter (Unicode.simpleLower c) = true := by
  rw [isAsciiLetter_iff] at h
  rcases h with h | h
  · rw [Unicode.simpleLower, Unicode.lowerCode_eq_self (by omega), Char.ofNat_toNat]
    exact isAsciiLetter_iff.2 (Or.inl h)
  · have hvalid : (0x61 + (c.toNat - 0x41)).isValidChar := Or.inl (by omega)
    have hcode : (Unicode.simpleLower c).toNat = 0x61 + (c.toNat - 0x41) := by
      rw [Unicode.simpleLower, Unicode.lowerCode_of_capital (by omega), Char.ofNat, dif_pos hvalid]
      rfl
    exact isAsciiLetter_iff.2 (Or.inl (by omega))

theorem lower_cons_of_isAsciiLetter {c : Char} (h : isAsciiLetter c = true) (cs : List Char) :
    Unicode.lower (c :: cs) = Unicode.simpleLower c :: Unicode.lowerAfter [c] cs := by
  have hdotted : c ≠ 'İ' := by
    rintro rfl
    exact absurd h (by decide)
  have hsigma : c ≠ 'Σ' := by
    rintro rfl
    exact absurd h (by decide)
  rw [Unicode.lower, Unicode.lowerAfter, Unicode.lowerAt, if_neg hdotted, if_neg hsigma]
  rfl

/-- No character that ends the name of a tag is a letter that lower-casing makes. -/
theorem endsTagName_of_isLowerImage {c : Char} (h : Unicode.IsLowerImage c) : endsTagName c = false := by
  have hne : ∀ d : Char, d.toNat < 0x61 → c ≠ d := by
    rintro d hd rfl
    exact absurd h.1 (by omega)
  simp [endsTagName, hne]

/-- The name of a tag that starts with a letter can be read back. -/
theorem readableTag_of_startTag {c : Char} {cs : List Char} {tag : String} {attrs : List Attribute}
    {closed : Bool} {rest : List Char} (hc : isAsciiLetter c = true)
    (h : startTag (c :: cs) = .ok (.tag tag attrs closed rest)) : ReadableTag tag.toList := by
  obtain ⟨rfl, -⟩ := startTag_spec h
  have hfirst : endsTagName c = false := by
    rw [isAsciiLetter_iff] at hc
    have hne : ∀ d : Char, d.toNat < 0x41 → c ≠ d := by
      rintro d hd rfl
      omega
    simp [endsTagName, hne]
  have hname : (c :: cs).takeWhile (fun d => !endsTagName d)
      = c :: cs.takeWhile fun d => !endsTagName d := by
    rw [List.takeWhile_cons_of_pos (by rw [hfirst]; rfl)]
  rw [String.toList_ofList]
  refine ⟨?_, fun d hd => ?_, Unicode.lower_lower _⟩
  · rw [hname]
    exact ⟨_, _, lower_cons_of_isAsciiLetter hc _, isAsciiLetter_simpleLower hc⟩
  · rcases Unicode.mem_lowerAfter hd with hd | hd
    · simpa using List.mem_takeWhile_imp hd
    · exact endsTagName_of_isLowerImage hd

/-! ## Names of attributes -/

/-- A name as it is written: it starts an attribute, and goes on with characters of a name. -/
theorem written_name (prev : Char) (cs : List Char) : ∀ w ∈ (writtenAttributes prev cs).1,
    ∃ c ds, w.name = c :: ds ∧ startsAttribute ' ' c = true ∧ ∀ d ∈ ds, isAttributeNameChar d = true := by
  have hafterSpace : ∀ {prev c}, startsAttribute prev c = true → startsAttribute ' ' c = true := by
    intro prev c h
    simp only [startsAttribute, Bool.and_eq_true] at h ⊢
    exact ⟨by decide, h.2⟩
  fun_induction writtenAttributes prev cs with
  | case1 => exact List.forall_mem_nil _
  | case2 prev c tail hstarts name hv gap more ih =>
    refine List.forall_mem_cons.2 ⟨⟨c, _, rfl, hafterSpace hstarts, fun d hd => ?_⟩, ih⟩
    exact List.mem_takeWhile_imp hd
  | case3 prev c tail hstarts name value last afterValue hv gap more ih =>
    refine List.forall_mem_cons.2 ⟨⟨c, _, rfl, hafterSpace hstarts, fun d hd => ?_⟩, ih⟩
    exact List.mem_takeWhile_imp hd
  | case4 => exact List.forall_mem_nil _

theorem isAttributeNameChar_of_isLowerImage {c : Char} (h : Unicode.IsLowerImage c) :
    isAttributeNameChar c = true := by
  have hne : ∀ d : Char, d.toNat < 0x61 → c ≠ d := by
    rintro d hd rfl
    exact absurd h.1 (by omega)
  simp [isAttributeNameChar, h.2, hne]

/-- The name of an attribute of a start tag can be read back. -/
theorem readableName_of_startTag {cs : List Char} {tag : String} {attrs : List Attribute} {closed : Bool}
    {rest : List Char} (h : startTag cs = .ok (.tag tag attrs closed rest)) {a : Attribute}
    (ha : a ∈ attrs) : ReadableName a.name.toList := by
  obtain ⟨prev, ds, w, hw, hname⟩ := exists_written_of_startTag h ha
  obtain ⟨c, tail, hwritten, hstarts, htail⟩ := written_name prev ds w hw
  obtain ⟨d, lowered, hlower, hd, hlowered⟩ := Unicode.exists_lower_cons c tail
  rw [hname, String.toList_ofList, hwritten]
  refine ⟨⟨d, lowered, hlower, ?_, fun e he => ?_⟩, Unicode.lower_lower _⟩
  · rcases hd with rfl | hd
    · exact hstarts
    · have hchar := isAttributeNameChar_of_isLowerImage hd
      simp only [isAttributeNameChar, Bool.not_eq_true', Bool.or_eq_false_iff] at hchar
      simp only [startsAttribute, Bool.and_eq_true, Bool.not_eq_true', Bool.or_eq_false_iff]
      exact ⟨by decide, ⟨hchar.1.1.1, hchar.1.1.2⟩, hchar.2⟩
  · rcases hlowered e he with he | he
    · exact htail e he
    · exact isAttributeNameChar_of_isLowerImage he

end MarkupCleaner.Markup
