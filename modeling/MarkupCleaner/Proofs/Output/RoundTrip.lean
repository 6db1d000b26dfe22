import Mathlib.Tactic.Common
import MarkupCleaner.Proofs.Output.Written

/-!
# Reading back what was written

A canonical tree that is written as HTML and parsed again is the same tree.
-/

namespace MarkupCleaner.Output

open Markup Node

/-! ## Plain names -/

theorem isLowerLetter_iff {c : Char} :
    isLowerLetter c = true ↔ 97 ≤ c.toNat ∧ c.toNat ≤ 122 := by
  simp only [isLowerLetter, Bool.and_eq_true, decide_eq_true_eq]
  exact Iff.rfl

theorem isPlainNameChar_iff {c : Char} : isPlainNameChar c = true ↔
    (97 ≤ c.toNat ∧ c.toNat ≤ 122) ∨ (48 ≤ c.toNat ∧ c.toNat ≤ 57) ∨ c.toNat = 45 := by
  have hhyphen : c = '-' ↔ c.toNat = 45 := (Char.toNat_inj (d := '-')).symm
  rw [isPlainNameChar, Bool.or_eq_true, Bool.or_eq_true, isLowerLetter_iff, isAsciiDigit_iff,
    decide_eq_true_eq, hhyphen, or_assoc]

theorem isPlainNameChar_of_isLowerLetter {c : Char} (h : isLowerLetter c = true) :
    isPlainNameChar c = true := by
  rw [isPlainNameChar, h]
  rfl

/-- Characters of plain names avoid the ASCII separators, and are their own lower-case letters. -/
theorem ne_of_isPlainNameChar {c d : Char} (h : isPlainNameChar c = true)
    (hd : isPlainNameChar d = false) : c ≠ d := by
  rintro rfl
  rw [h] at hd
  cases hd

theorem isLower_of_isPlainNameChar {c : Char} (h : isPlainNameChar c = true) :
    Unicode.IsLower c := by
  refine ⟨ne_of_isPlainNameChar h (by decide), ne_of_isPlainNameChar h (by decide), ?_⟩
  rw [isPlainNameChar_iff] at h
  rw [Unicode.simpleLower, Unicode.lowerCode_eq_self (by omega), Char.ofNat_toNat]

theorem lower_of_isPlainName {cs : List Char} (h : ∀ c ∈ cs, isPlainNameChar c = true) :
    Unicode.lower cs = cs :=
  Unicode.lower_eq_self fun c hc => isLower_of_isPlainNameChar (h c hc)

theorem isBlankChar_of_isPlainNameChar {c : Char} (h : isPlainNameChar c = true) :
    Text.isBlankChar c = false := by
  rw [isPlainNameChar_iff] at h
  exact isBlankChar_eq_false (by omega)

/-- The first character of a plain name, and the others. -/
theorem exists_of_isPlainName {name : String} (h : isPlainName name = true) :
    ∃ c cs, name.toList = c :: cs ∧ isLowerLetter c = true ∧
      ∀ d ∈ c :: cs, isPlainNameChar d = true := by
  unfold isPlainName at h
  split at h
  · cases h
  · next c cs heq =>
    rw [Bool.and_eq_true, List.all_eq_true] at h
    refine ⟨c, cs, heq, h.1, fun d hd => ?_⟩
    rcases List.mem_cons.1 hd with rfl | hd
    · exact isPlainNameChar_of_isLowerLetter h.1
    · exact h.2 d hd

theorem readableName_of_isPlainName {name : String} (h : isPlainName name = true) :
    ReadableName name.toList := by
  obtain ⟨c, cs, hname, hc, hall⟩ := exists_of_isPlainName h
  have hchar := hall c List.mem_cons_self
  rw [hname]
  refine ⟨⟨c, cs, rfl, ?_, fun d hd => ?_⟩, lower_of_isPlainName hall⟩
  · simp [startsAttribute, Text.isBlankChar_space, isBlankChar_of_isPlainNameChar hchar,
      ne_of_isPlainNameChar hchar (d := '/') (by decide),
      ne_of_isPlainNameChar hchar (d := '>') (by decide)]
  · have hchar := hall d (List.mem_cons_of_mem c hd)
    simp [isAttributeNameChar, isBlankChar_of_isPlainNameChar hchar,
      ne_of_isPlainNameChar hchar (d := '/') (by decide),
      ne_of_isPlainNameChar hchar (d := '=') (by decide),
      ne_of_isPlainNameChar hchar (d := '>') (by decide)]

theorem readableTag_of_isPlainName {name : String} (h : isPlainName name = true) :
    ReadableTag name.toList := by
  obtain ⟨c, cs, hname, hc, hall⟩ := exists_of_isPlainName h
  rw [hname]
  refine ⟨⟨c, cs, rfl, ?_⟩, fun d hd => ?_, lower_of_isPlainName hall⟩
  · rw [isLowerLetter_iff] at hc
    exact isAsciiLetter_iff.2 (Or.inl hc)
  · have hchar := hall d hd
    simp only [endsTagName, Bool.or_eq_false_iff, decide_eq_false_iff_not]
    refine ⟨⟨⟨⟨⟨⟨⟨?_, ?_⟩, ?_⟩, ?_⟩, ?_⟩, ?_⟩, ?_⟩, ?_⟩ <;>
      exact ne_of_isPlainNameChar hchar (by decide)

/-- End tags can hold every character of a plain name. -/
theorem isMisnamed_of_isPlainName {name : String} (h : isPlainName name = true) :
    isMisnamed name.toList = false := by
  obtain ⟨c, cs, hname, -, hall⟩ := exists_of_isPlainName h
  have hend : ∀ d ∈ c :: cs, isEndNameChar d = true := by
    intro d hd
    have hchar := hall d hd
    simp only [isPlainNameChar, Bool.or_eq_true] at hchar
    rcases hchar with (hletter | hdigit) | hhyphen
    · rw [isLowerLetter_iff] at hletter
      simp [isEndNameChar, isAsciiLetter_iff.2 (Or.inl hletter)]
    · simp [isEndNameChar, hdigit]
    · simp [isEndNameChar, hhyphen]
  rw [hname, isMisnamed, List.dropWhile_eq_nil_iff.2 hend]
  rfl

/-! ## Canonical trees as they are written -/

theorem htmlForm_of_canonical {attrs : Attributes} (h : CanonicalAttributes attrs) {a : Attribute}
    (ha : a ∈ attrs) : htmlForm a = a := by
  obtain ⟨hclass, hfor⟩ := h.written a ha
  rcases htmlName_cases a.name with hname | ⟨heq, -⟩ | ⟨heq, -⟩
  · rw [htmlForm, hname]
  · exact absurd heq hclass
  · exact absurd heq hfor

theorem rereadAttributes_of_canonical {attrs : Attributes} (h : CanonicalAttributes attrs) :
    rereadAttributes attrs = attrs := by
  have hmap : attrs.map htmlForm = attrs := by
    conv_rhs => rw [← List.map_id attrs]
    exact List.map_congr_left fun a ha => htmlForm_of_canonical h ha
  rw [rereadAttributes, hmap, firstOfEachName_eq_self h.distinct]

mutual

theorem legible_of_canonical {kept : Bool} : ∀ {n : Node}, Canonical kept n → Legible n
  | .element .., ⟨⟨hname, hraw⟩, hempty, hattrs, _, hchildren⟩ => by
    refine ⟨readableTag_of_isPlainName hname, fun a ha => readableName_of_isPlainName (hattrs.plain a ha),
      hempty, fun htag => ?_, legibleBelow_of_canonical hchildren⟩
    rw [hraw] at htag
    cases htag
  | .text _, h => h.notEmpty
  | .comment _, h => h.2

theorem legibleBelow_of_canonical {kept : Bool} :
    ∀ {ns : List Node}, CanonicalBelow kept ns → LegibleBelow ns
  | [], _ => trivial
  | _ :: _, ⟨hn, hnext, hns⟩ => ⟨legible_of_canonical hn, hnext, legibleBelow_of_canonical hns⟩

end

mutual

theorem isNamed_of_canonical {kept : Bool} : ∀ {n : Node}, Canonical kept n → ∀ m ∈ n.nodes, IsNamed m
  | .element .., ⟨⟨hname, _⟩, _, _, _, hchildren⟩ =>
    forall_nodes_element.2 ⟨isMisnamed_of_isPlainName hname, isNamed_of_canonicalBelow hchildren⟩
  | .text _, _ => forall_nodes_text.2 trivial
  | .comment _, _ => forall_nodes_comment.2 trivial

theorem isNamed_of_canonicalBelow {kept : Bool} :
    ∀ {ns : List Node}, CanonicalBelow kept ns → ∀ m ∈ nodesAll ns, IsNamed m
  | [], _ => List.forall_mem_nil _
  | _ :: _, ⟨hn, _, hns⟩ =>
    forall_nodesAll_cons.2 ⟨isNamed_of_canonical hn, isNamed_of_canonicalBelow hns⟩

end

mutual

theorem reread_of_canonical {kept : Bool} : ∀ {n : Node}, Canonical kept n → reread false n = n
  | .element tag attrs children ns, ⟨⟨_, hraw⟩, _, hattrs, hns, hchildren⟩ => by
    rw [reread, rereadAttributes_of_canonical hattrs, hraw, rereadAll_of_canonical hchildren, hns]
  | .text value, _ => rfl
  | .comment data, _ => rfl

theorem rereadAll_of_canonical {kept : Bool} :
    ∀ {ns : List Node}, CanonicalBelow kept ns → rereadAll false ns = ns
  | [], _ => rfl
  | n :: ns, ⟨hn, _, hns⟩ => by
    rw [rereadAll, reread_of_canonical hn, rereadAll_of_canonical hns]

end

/-- Written canonical nodes in front of markup are read as tokens that spell them. -/
theorem reads_renderAll {kept : Bool} (ns : List Node) (h : CanonicalBelow kept ns) (rest : List Char)
    (hrest : StartsMarkup rest) : ∃ ts, Reads (renderAll html ns).toList ts rest ∧ Spells ts ns := by
  obtain ⟨ts, hreads, hspells⟩ := reads_legibleBelow ns (legibleBelow_of_canonical h) rest hrest
  have hns := hspells (isNamed_of_canonicalBelow h)
  rw [rereadAll_of_canonical h] at hns
  exact ⟨ts, hreads, hns⟩

/-- A canonical tree that is written as HTML is parsed as the same tree. -/
theorem parseFragment_toHtml {t : Fragment} (h : CanonicalBelow false t) :
    parseFragment (toHtml t) = .ok t := by
  obtain ⟨ts, hreads, hspells⟩ := reads_renderAll t h [] fun c hc => by cases hc
  have htokens : tokens (toHtml t).toList = .ok ts := tokens_of_reads hreads
  rw [parseFragment, parse, htokens]
  exact congrArg Except.ok (fragment_of_spells hspells h)

/-- The round trip of a tree with a void element that has an attribute, white space under `pre`, text
    and a value that need escapes, an element that is empty but not void, and comments. -/
theorem parseFragment_toHtml_sample :
    let t : Fragment :=
      [.element "p" [⟨"title", "a \"b\" & <c>"⟩]
        [.text "1 < 2 &amp; ", .element "br" [⟨"id", ""⟩] [] none, .comment " note -"] none,
      .element "pre" [] [.text " \n", .element "keygen" [] [] none, .text " "] none, .comment "-"]
    CanonicalBelow false t ∧ parseFragment (toHtml t) = .ok t :=
  ⟨by decide, parseFragment_toHtml (by decide)⟩

end MarkupCleaner.Output
