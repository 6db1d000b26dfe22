import MarkupCleaner.Proofs.Output.Leaves
import MarkupCleaner.Proofs.Output.Reread

/-!
# When the HTML of a parsed tree is written again

The HTML of a parsed tree is parsed, but not always written again as it was: raw text is escaped once
more, the second of two attributes with one HTML name is lost, and blank texts side by side become one
short text. If every end tag names its element, the HTML is stable exactly where nothing of that happens.
Escaped raw text is found out by reading what comes back once more; the other changes make the HTML
shorter.
-/

namespace MarkupCleaner.Output

open Markup Node

/-- A text that is written as it is; other nodes do not matter. -/
def IsPlainText : Node → Prop
  | .text value => escapeText value = value
  | .element .. => True
  | .comment _ => True

/-- An element whose raw text, if it holds any, needs no escapes. -/
def HasPlainRawText : Node → Prop
  | .element tag _ children _ => isRawTextElement tag = true → ∀ n ∈ children, IsPlainText n
  | .text _ => True
  | .comment _ => True

/-- What the texts of a tree need to be written again as they were: raw text needs no escapes, and no blank
    text is shortened. -/
structure SettledTexts (t : Fragment) : Prop where
  rawText : ∀ n ∈ nodesAll t, HasPlainRawText n
  blanks : shortenedAll false t = t

/-- An element no two of whose attributes are written with one name. -/
def HasDistinctHtmlNames : Node → Prop :=
  OnElement fun _ attrs => (attrs.map fun a => htmlName a.name).Nodup

instance : (n : Node) → Decidable (IsPlainText n)
  | .text _ => inferInstanceAs (Decidable (_ = _))
  | .element .. => inferInstanceAs (Decidable True)
  | .comment _ => inferInstanceAs (Decidable True)

instance : (n : Node) → Decidable (HasPlainRawText n)
  | .element _ _ children _ => inferInstanceAs (Decidable (_ → ∀ n ∈ children, IsPlainText n))
  | .text _ => inferInstanceAs (Decidable True)
  | .comment _ => inferInstanceAs (Decidable True)

instance (t : Fragment) : Decidable (SettledTexts t) :=
  decidable_of_iff ((∀ n ∈ nodesAll t, HasPlainRawText n) ∧ shortenedAll false t = t)
    ⟨fun h => ⟨h.1, h.2⟩, fun h => ⟨h.rawText, h.blanks⟩⟩

instance (n : Node) : Decidable (HasDistinctHtmlNames n) := inferInstanceAs (Decidable (OnElement _ n))

/-! ## Texts -/

/-- A text with an ampersand is not blank, and keeps its form. -/
theorem shortText_of_amp {value : String} (h : '&' ∈ value.toList) (kept : Bool) :
    shortText kept value = value := by
  rcases shortText_cases kept value with heq | ⟨⟨-, hblank⟩, -⟩
  · exact heq
  · exact absurd (List.all_eq_true.1 hblank _ h) (by decide)

/-- Escaping and shortening twice is the same as doing it once only for a text that needs no escapes. -/
theorem escapeText_eq_self_of_twice {kept : Bool} {value : String}
    (h : shortText kept (escapeText (shortText kept (escapeText value)))
      = shortText kept (escapeText value)) :
    escapeText value = value := by
  by_contra hne
  have hamp : '&' ∈ (escapeText value).toList := by
    rw [toList_escapeText]
    exact amp_mem_escapedText fun hall => hne (escapeText_eq_self_iff.2 hall)
  have hagain : ¬∀ c ∈ (escapeText value).toList, isUnescaped c = true :=
    fun hall => absurd (hall '&' hamp) (by decide)
  have hampAgain : '&' ∈ (escapeText (escapeText value)).toList := by
    rw [toList_escapeText]
    exact amp_mem_escapedText hagain
  rw [shortText_of_amp hamp, shortText_of_amp hampAgain] at h
  exact hagain (escapeText_eq_self_iff.1 h)

/-! ## Raw text -/

mutual

theorem plainRawText_of_settled_settled : ∀ {n : Node} {kept raw : Bool},
    settled kept raw (settled kept raw n) = settled kept raw n →
    (raw = true → IsPlainText n) ∧ ∀ m ∈ n.nodes, HasPlainRawText m
  | .element tag attrs children space, kept, raw, h => by
    obtain ⟨htexts, hbelow⟩ := plainRawText_of_settledAll_settledAll (Node.element.inj h).2.2.1
    exact ⟨fun _ => trivial, forall_nodes_element.2 ⟨htexts, hbelow⟩⟩
  | .text value, kept, raw, h => by
    refine ⟨fun hraw => ?_, forall_nodes_text.2 trivial⟩
    rw [hraw] at h
    exact escapeText_eq_self_of_twice (Node.text.inj h)
  | .comment data, kept, raw, _ => ⟨fun _ => trivial, forall_nodes_comment.2 trivial⟩

/-- If what comes back is what comes back from it, raw text needs no escapes. -/
theorem plainRawText_of_settledAll_settledAll : ∀ {ns : List Node} {kept raw : Bool},
    settledAll kept raw (settledAll kept raw ns) = settledAll kept raw ns →
    (raw = true → ∀ n ∈ ns, IsPlainText n) ∧ ∀ m ∈ nodesAll ns, HasPlainRawText m
  | [], _, _, _ => ⟨fun _ => List.forall_mem_nil _, List.forall_mem_nil _⟩
  | n :: ns, kept, raw, h => by
    obtain ⟨hn, hns⟩ := List.cons.inj h
    obtain ⟨hself, hnodes⟩ := plainRawText_of_settled_settled hn
    obtain ⟨hall, hbelow⟩ := plainRawText_of_settledAll_settledAll hns
    exact ⟨fun hraw => List.forall_mem_cons.2 ⟨hself hraw, hall hraw⟩,
      forall_nodesAll_cons.2 ⟨hnodes, hbelow⟩⟩

end

/-- Plain text comes back with blank text shortened and nothing else changed. -/
theorem settled_text {value : String} {kept raw : Bool} (h : raw = true → IsPlainText (.text value)) :
    settled kept raw (.text value) = .text (shortText kept value) := by
  cases raw with
  | false => rfl
  | true =>
    have hvalue : escapeText value = value := h rfl
    rw [settled, reread, if_pos rfl, hvalue]
    rfl

/-! ## Attributes -/

theorem htmlName_htmlName (name : String) : htmlName (htmlName name) = htmlName name := by
  rcases htmlName_cases name with heq | ⟨-, heq⟩ | ⟨-, heq⟩
  · rw [heq, heq]
  · rw [heq]
    rfl
  · rw [heq]
    rfl

theorem htmlAttribute_htmlForm (a : Attribute) : htmlAttribute (htmlForm a) = htmlAttribute a := by
  rw [htmlAttribute, htmlAttribute, htmlForm, htmlName_htmlName]

theorem map_htmlAttribute_htmlForm (attrs : Attributes) :
    (attrs.map htmlForm).map htmlAttribute = attrs.map htmlAttribute := by
  rw [List.map_map]
  exact List.map_congr_left fun a _ => htmlAttribute_htmlForm a

/-- How long written attributes are. -/
def writtenLength (attrs : Attributes) : Nat := (String.join (attrs.map htmlAttribute)).length

theorem writtenLength_cons (a : Attribute) (attrs : Attributes) :
    writtenLength (a :: attrs) = (htmlAttribute a).length + writtenLength attrs := by
  rw [writtenLength, List.map_cons, String.join_cons, String.length_append]
  rfl

theorem length_htmlAttribute_pos {a : Attribute} (h : ReadableName a.name.toList) :
    0 < (htmlAttribute a).length := by
  rw [← String.length_toList, toList_htmlAttribute h, attributeText]
  simp

/-- Fewer attributes are shorter, if all of them are written. -/
theorem writtenLength_of_sublist {bs cs : Attributes} (h : bs.Sublist cs)
    (hpos : ∀ c ∈ cs, 0 < (htmlAttribute c).length) :
    writtenLength bs ≤ writtenLength cs ∧ (writtenLength bs = writtenLength cs → bs = cs) := by
  induction h with
  | slnil => exact ⟨Nat.le_refl _, fun _ => rfl⟩
  | @cons bs cs c _ ih =>
    rw [List.forall_mem_cons] at hpos
    obtain ⟨hle, -⟩ := ih hpos.2
    rw [writtenLength_cons]
    exact ⟨by omega, fun heq => by omega⟩
  | @cons_cons bs cs c _ ih =>
    rw [List.forall_mem_cons] at hpos
    obtain ⟨hle, heq⟩ := ih hpos.2
    rw [writtenLength_cons, writtenLength_cons]
    constructor
    · omega
    · intro hsame
      rw [heq (by omega)]

theorem map_name_htmlForm (attrs : Attributes) :
    (attrs.map htmlForm).map Attribute.name = attrs.map fun a => htmlName a.name := by
  rw [List.map_map]
  rfl

/-- Attributes that come back are shorter than those that were written, if two of them had one name. -/
theorem writtenLength_rereadAttributes {attrs : Attributes} (h : ∀ a ∈ attrs, ReadableName a.name.toList) :
    writtenLength (rereadAttributes attrs) ≤ writtenLength attrs ∧
      (writtenLength (rereadAttributes attrs) = writtenLength attrs →
        (attrs.map fun a => htmlName a.name).Nodup) := by
  have hform : writtenLength (attrs.map htmlForm) = writtenLength attrs := by
    rw [writtenLength, map_htmlAttribute_htmlForm]
    rfl
  obtain ⟨hle, heq⟩ := writtenLength_of_sublist (firstOfEachName_sublist (attrs.map htmlForm))
    fun a ha => length_htmlAttribute_pos (forall_readableName_htmlForm h a ha)
  rw [hform] at hle heq
  refine ⟨hle, ?_⟩
  intro hsame
  rw [← map_name_htmlForm, ← heq hsame]
  exact nodup_names_firstOfEachName _

theorem rereadAttributes_of_distinct {attrs : Attributes} (h : (attrs.map fun a => htmlName a.name).Nodup) :
    rereadAttributes attrs = attrs.map htmlForm := by
  rw [← map_name_htmlForm] at h
  exact firstOfEachName_eq_self h

/-! ## Settled trees are written again -/

mutual

theorem render_settled : ∀ {n : Node} {kept raw : Bool}, (raw = true → IsPlainText n) →
    (∀ m ∈ n.nodes, HasPlainRawText m) → (∀ m ∈ n.nodes, HasDistinctHtmlNames m) → shortened kept n = n →
    render html (settled kept raw n) = render html n
  | .element tag attrs children space, kept, raw, _, hraw, hnames, hshort => by
    obtain ⟨htexts, hrawBelow⟩ := forall_nodes_element.1 hraw
    obtain ⟨hself, hnamesBelow⟩ := forall_nodes_element.1 hnames
    have hchildren := renderAll_settledAll htexts hrawBelow hnamesBelow (Node.element.inj hshort).2.2.1
    have hattrs : (rereadAttributes attrs).map htmlAttribute = attrs.map htmlAttribute := by
      rw [rereadAttributes_of_distinct hself, map_htmlAttribute_htmlForm]
    rw [settled_element, render, render, hchildren]
    simp only [html, hattrs]
  | .text value, kept, raw, hplain, _, _, hshort => by
    rw [settled_text hplain, Node.text.inj hshort]
  | .comment data, kept, raw, _, _, _, hshort => by
    rw [settled_comment, hshort]

/-- Where raw text needs no escapes, attributes have distinct HTML names and no blank text is shortened, what
    comes back is written as before. -/
theorem renderAll_settledAll : ∀ {ns : List Node} {kept raw : Bool},
    (raw = true → ∀ n ∈ ns, IsPlainText n) → (∀ m ∈ nodesAll ns, HasPlainRawText m) →
    (∀ m ∈ nodesAll ns, HasDistinctHtmlNames m) → shortenedAll kept ns = ns →
    renderAll html (settledAll kept raw ns) = renderAll html ns
  | [], _, _, _, _, _, _ => rfl
  | n :: ns, kept, raw, htexts, hraw, hnames, hshort => by
    obtain ⟨hrawN, hrawNs⟩ := forall_nodesAll_cons.1 hraw
    obtain ⟨hnamesN, hnamesNs⟩ := forall_nodesAll_cons.1 hnames
    obtain ⟨hshortN, hshortNs⟩ := List.cons.inj hshort
    rw [settledAll_cons, renderAll, renderAll,
      render_settled (fun h => htexts h n List.mem_cons_self) hrawN hnamesN hshortN,
      renderAll_settledAll (fun h m hm => htexts h m (List.mem_cons_of_mem n hm)) hrawNs hnamesNs hshortNs]

end

/-! ## Other trees get shorter -/

/-- The length of a written element, apart from its attributes and its children. -/
theorem length_render_element (tag : String) : ∃ rest, ∀ attrs children space,
    (tag ∈ emptyElements → children = []) →
      (render html (.element tag attrs children space)).length
        = rest + writtenLength attrs + (renderAll html children).length := by
  by_cases hvoid : voidElements.contains tag = true
  · refine ⟨("<" ++ tag ++ " />").length, fun attrs children space hempty => ?_⟩
    rw [hempty (mem_emptyElements_of_void hvoid), render]
    simp only [if_pos hvoid, html, writtenLength, String.length_append, renderAll, String.length_empty]
    omega
  · refine ⟨("<" ++ tag ++ ">" ++ "</" ++ tag ++ ">").length, fun attrs children space _ => ?_⟩
    rw [render]
    simp only [if_neg hvoid, html, writtenLength, String.length_append]
    omega

/-- A blank text that is shortened gets shorter, unless it was one character that comes back. -/
theorem length_shortText {kept : Bool} {value : String} (hne : value ≠ "")
    (hblanks : Everywhere IsWritable kept (.text value)) :
    (escapeText (shortText kept value)).length ≤ (escapeText value).length ∧
      ((escapeText (shortText kept value)).length = (escapeText value).length →
        shortText kept value = value) := by
  rcases shortText_cases kept value with heq | ⟨⟨hkept, hblank⟩, hshort⟩
  · rw [heq]
    exact ⟨Nat.le_refl _, fun _ => rfl⟩
  · have hone : (escapeText (shortText kept value)).length = 1 := by
      rcases hshort with heq | heq <;> rw [heq] <;> rfl
    have hlength := length_le_length_escapedText value.toList
    rw [← toList_escapeText, String.length_toList, String.length_toList] at hlength
    have hpos : 0 < value.length := by
      rw [← String.length_toList]
      exact List.length_pos_iff.2 fun hnil => hne (String.toList_eq_nil_iff.1 hnil)
    constructor
    · omega
    · intro hsame
      have hsingle : value.toList.length = 1 := by
        rw [String.length_toList]
        omega
      obtain ⟨c, hc⟩ := List.length_eq_one_iff.1 hsingle
      have hchars := hblanks hkept hblank c (by rw [hc]; exact List.mem_singleton_self c)
      have hvalue : value = .ofList [c] := by rw [← hc, String.ofList_toList]
      rw [hvalue, hkept]
      rcases hchars with rfl | rfl <;> rfl

mutual

theorem length_settled : ∀ {n : Node} {kept raw : Bool}, Legible n → Everywhere IsWritable kept n →
    (raw = true → IsPlainText n) → (∀ m ∈ n.nodes, HasPlainRawText m) →
    (render html (settled kept raw n)).length ≤ (render html n).length ∧
      ((render html (settled kept raw n)).length = (render html n).length →
        (∀ m ∈ n.nodes, HasDistinctHtmlNames m) ∧ shortened kept n = n)
  | .element tag attrs children space, kept, raw, h, hwritable, _, hraw => by
    obtain ⟨-, hnames, hempty, -, hchildren⟩ := h
    obtain ⟨htexts, hrawBelow⟩ := forall_nodes_element.1 hraw
    obtain ⟨hattrsLe, hattrsEq⟩ := writtenLength_rereadAttributes hnames
    obtain ⟨hbelowLe, hbelowEq⟩ := length_settledAll hchildren hwritable.2 htexts hrawBelow
    obtain ⟨rest, hlength⟩ := length_render_element tag
    have hsettled := hlength (rereadAttributes attrs)
      (settledAll (kept || keepsBlankText tag) (isRawTextElement tag) children) none
      fun hmem => by rw [hempty hmem]; rfl
    rw [settled_element, hsettled, hlength attrs children space hempty]
    constructor
    · omega
    · intro hsame
      obtain ⟨hnamesBelow, hshort⟩ := hbelowEq (by omega)
      refine ⟨forall_nodes_element.2 ⟨hattrsEq (by omega), hnamesBelow⟩, ?_⟩
      rw [shortened, hshort]
  | .text value, kept, raw, h, hwritable, hplain, _ => by
    obtain ⟨hle, heq⟩ := length_shortText h hwritable
    rw [settled_text hplain]
    refine ⟨hle, ?_⟩
    intro hsame
    refine ⟨forall_nodes_text.2 trivial, ?_⟩
    rw [shortened, heq hsame]
  | .comment data, kept, raw, _, hwritable, _, _ => by
    have hshort : shortened kept (.comment data) = .comment data := congrArg Node.comment hwritable.2
    rw [settled_comment, hshort]
    exact ⟨Nat.le_refl _, fun _ => ⟨forall_nodes_comment.2 trivial, rfl⟩⟩

/-- Where raw text needs no escapes, what comes back is not longer, and shorter if an attribute was lost or a
    blank text shortened. -/
theorem length_settledAll : ∀ {ns : List Node} {kept raw : Bool}, LegibleBelow ns →
    EverywhereBelow IsWritable kept ns → (raw = true → ∀ n ∈ ns, IsPlainText n) →
    (∀ m ∈ nodesAll ns, HasPlainRawText m) →
    (renderAll html (settledAll kept raw ns)).length ≤ (renderAll html ns).length ∧
      ((renderAll html (settledAll kept raw ns)).length = (renderAll html ns).length →
        (∀ m ∈ nodesAll ns, HasDistinctHtmlNames m) ∧ shortenedAll kept ns = ns)
  | [], _, _, _, _, _, _ => ⟨Nat.le_refl _, fun _ => ⟨List.forall_mem_nil _, rfl⟩⟩
  | n :: ns, kept, raw, ⟨hn, _, hns⟩, hwritable, htexts, hraw => by
    obtain ⟨hrawN, hrawNs⟩ := forall_nodesAll_cons.1 hraw
    obtain ⟨hle, heq⟩ := length_settled hn hwritable.1 (fun h => htexts h n List.mem_cons_self) hrawN
    obtain ⟨hleBelow, heqBelow⟩ := length_settledAll hns hwritable.2
      (fun h m hm => htexts h m (List.mem_cons_of_mem n hm)) hrawNs
    rw [settledAll_cons, renderAll, renderAll, String.length_append, String.length_append]
    constructor
    · omega
    · intro hsame
      obtain ⟨hnames, hshort⟩ := heq (by omega)
      obtain ⟨hnamesBelow, hshortBelow⟩ := heqBelow (by omega)
      refine ⟨forall_nodesAll_cons.2 ⟨hnames, hnamesBelow⟩, ?_⟩
      rw [shortenedAll, hshort, hshortBelow]

end

/-- The HTML of what comes back is that of the tree exactly if its texts are settled and no element has two
    attributes of one HTML name. -/
theorem toHtml_settledAll_iff {t : Fragment} (h : LegibleBelow t)
    (hwritable : EverywhereBelow IsWritable false t) (hnamed : ∀ n ∈ nodesAll t, IsNamed n) :
    toHtml (settledAll false false t) = toHtml t ↔
      SettledTexts t ∧ ∀ n ∈ nodesAll t, HasDistinctHtmlNames n := by
  constructor
  · intro hsame
    -- raw text comes first: it alone can get longer, and make up for what gets shorter
    obtain ⟨hplain, hraw⟩ := plainRawText_of_settledAll_settledAll (settledAll_settledAll h hnamed hsame)
    obtain ⟨-, heq⟩ := length_settledAll h hwritable hplain hraw
    obtain ⟨hnames, hshort⟩ := heq (congrArg String.length hsame)
    exact ⟨⟨hraw, hshort⟩, hnames⟩
  · rintro ⟨htexts, hnames⟩
    exact renderAll_settledAll (fun hraw => nomatch hraw) htexts.rawText hnames htexts.blanks

/-- The HTML of a parsed tree is parsed again. If, of what is written, every end tag names its element and no
    element has two attributes of one HTML name, it is written again as it was exactly if, with adjacent texts
    joined, raw text needs no escapes and no blank text is shortened. -/
theorem toHtml_stable_iff {text : String} {t : Fragment} (h : parseFragment text = .ok t) :
    ∃ u, parseFragment (toHtml t) = .ok u ∧
      ((∀ n ∈ nodesAll (shownAll t), IsNamed n) → (∀ n ∈ nodesAll (shownAll t), HasDistinctHtmlNames n) →
        (toHtml u = toHtml t ↔ SettledTexts (joinedAll (shownAll t)))) := by
  have hwritable := isWritable_of_parseFragment h
  have hlegible := legibleBelow_joinedAll hwritable
  have hsame : toHtml (joinedAll t) = toHtml t := renderAll_joinedAll t
  obtain ⟨u, hparse, hu⟩ := exists_parseFragment_toHtml hlegible
  rw [hsame] at hparse
  rw [shownAll_eq_self_iff.2 (isVoidEmpty_of_parseFragment h)]
  refine ⟨u, hparse, ?_⟩
  intro hnamed hnames
  have hnamed := onElement_joinedAll hnamed
  rw [hu hnamed, ← hsame, toHtml_settledAll_iff hlegible (isWritable_joinedAll hwritable) hnamed]
  exact and_iff_left (onElement_joinedAll hnames)

/-- Text in two pieces with a reference in it, an attribute name that HTML spells otherwise, a script that
    needs no escapes and blank text under `pre`. -/
theorem toHtml_stable_iff_script :
    let text := "<P className=a>1 &lt; 2<!DOCTYPE html>, 3</P><script>f(1)</script><pre> \n </pre>"
    let t : Fragment :=
      [.element "p" [⟨"classname", "a"⟩] [.text "1 < 2", .text ", 3"] none,
        .element "script" [] [.text "f(1)"] none, .element "pre" [] [.text " \n "] none]
    parseFragment text = .ok t ∧ (∀ n ∈ nodesAll (shownAll t), IsNamed n) ∧
      (∀ n ∈ nodesAll (shownAll t), HasDistinctHtmlNames n) ∧ SettledTexts (joinedAll (shownAll t)) ∧
      ∃ u, parseFragment (toHtml t) = .ok u ∧ toHtml u = toHtml t := by
  intro text t
  have hparse : parseFragment text = .ok t := by decide +kernel
  have hnamed : ∀ n ∈ nodesAll (shownAll t), IsNamed n := by decide +kernel
  have hnames : ∀ n ∈ nodesAll (shownAll t), HasDistinctHtmlNames n := by decide +kernel
  have htexts : SettledTexts (joinedAll (shownAll t)) := by decide +kernel
  obtain ⟨u, hu, hstable⟩ := toHtml_stable_iff hparse
  exact ⟨hparse, hnamed, hnames, htexts, u, hu, (hstable hnamed hnames).2 htexts⟩

/-- The HTML of what is parsed from a text is parsed again, but written otherwise. -/
def IsUnstable (text : String) : Prop :=
  ∃ t u, parseFragment text = .ok t ∧ parseFragment (toHtml t) = .ok u ∧ toHtml u ≠ toHtml t

/-- A script that needs escapes, two attributes of one HTML name, blank texts side by side, and an element
    that its end tag does not name. -/
theorem toHtml_unstable : IsUnstable "<script>a<b</script>" ∧
    IsUnstable "<p class=\"a\" classname=\"b\"></p>" ∧ IsUnstable " <!DOCTYPE html> " ∧
    IsUnstable "<a\x0b/>b" := by
  refine ⟨⟨[.element "script" [] [.text "a<b"] none], [.element "script" [] [.text "a&lt;b"] none], ?_⟩,
    ⟨[.element "p" [⟨"class", "a"⟩, ⟨"classname", "b"⟩] [] none],
      [.element "p" [⟨"class", "a"⟩] [] none], ?_⟩,
    ⟨[.text " ", .text " "], [.text " "], ?_⟩,
    ⟨[.element "a\x0b" [] [] none, .text "b"], [.element "a\x0b" [] [.text "b"] none], ?_⟩⟩ <;>
  decide +kernel

end MarkupCleaner.Output
