import MarkupCleaner.Proofs.Output.Joined

/-!
# What comes back from the HTML of a tree

The HTML of a parsed tree is always parsed again. If every end tag names its element, what comes back is
the tree with its texts joined, in which attributes have their HTML names and only the first one of a name
is left, raw text is escaped once more, and blank text is shortened.
-/

namespace MarkupCleaner.Output

open Markup Node

/-- The subtree that comes back from a written one: what is read, with blank text shortened. -/
def settled (kept raw : Bool) (n : Node) : Node := shortened kept (reread raw n)

/-- The subtrees that come back from written ones. -/
def settledAll (kept raw : Bool) (ns : List Node) : List Node := shortenedAll kept (rereadAll raw ns)

theorem settledAll_cons (kept raw : Bool) (n : Node) (ns : List Node) :
    settledAll kept raw (n :: ns) = settled kept raw n :: settledAll kept raw ns := rfl

theorem settled_element (kept raw : Bool) (tag : String) (attrs : Attributes) (children : List Node)
    (space : Option String) : settled kept raw (.element tag attrs children space)
      = .element tag (rereadAttributes attrs)
        (settledAll (kept || keepsBlankText tag) (isRawTextElement tag) children) none := rfl

theorem settled_comment (kept raw : Bool) (data : String) :
    settled kept raw (.comment data) = shortened kept (.comment data) := rfl

/-! ## Parsing HTML -/

/-- The HTML of a legible tree is parsed, and as what comes back if every end tag names its element. -/
theorem exists_parseFragment_toHtml {t : Fragment} (h : LegibleBelow t) :
    ∃ u, parseFragment (toHtml t) = .ok u ∧
      ((∀ n ∈ nodesAll t, IsNamed n) → u = settledAll false false t) := by
  obtain ⟨ts, hreads, hspells⟩ := reads_legibleBelow t h [] fun c hc => nomatch hc
  have htokens : tokens (toHtml t).toList = .ok ts := tokens_of_reads hreads
  refine ⟨(Document.ofTokens ts).fragment, ?_, fun hnamed => fragment_eq_shortenedAll (hspells hnamed)⟩
  rw [parseFragment, parse, htokens]
  rfl

theorem parseFragment_toHtml_of_legible {t : Fragment} (h : LegibleBelow t)
    (hnamed : ∀ n ∈ nodesAll t, IsNamed n) : parseFragment (toHtml t) = .ok (settledAll false false t) := by
  obtain ⟨u, hparse, hu⟩ := exists_parseFragment_toHtml h
  rw [hparse, hu hnamed]

/-! ## What comes back is legible -/

@[simp] theorem isText_settled (kept raw : Bool) (n : Node) : isText (settled kept raw n) = isText n := by
  cases n <;> rfl

theorem head_settledAll {kept raw : Bool} {ns : List Node} (h : ∀ n ∈ ns.head?, isText n = false) :
    ∀ n ∈ (settledAll kept raw ns).head?, isText n = false := by
  cases ns with
  | nil => exact h
  | cons n ns =>
    rintro _ ⟨⟩
    exact (isText_settled kept raw n).trans (h n rfl)

theorem rawBelow_settledAll {tag : String} {children : List Node} (kept raw : Bool)
    (h : RawBelow tag children) : RawBelow tag (settledAll kept raw children) := by
  intro htag
  have hall := h htag
  induction children with
  | nil => exact List.forall_mem_nil _
  | cons n ns ih =>
    rw [List.forall_mem_cons] at hall
    refine List.forall_mem_cons.2 ⟨(isText_settled kept raw n).trans hall.1, ?_⟩
    exact ih (fun _ => hall.2) hall.2

theorem readableName_of_mem_rereadAttributes {attrs : Attributes}
    (h : ∀ a ∈ attrs, ReadableName a.name.toList) :
    ∀ a ∈ rereadAttributes attrs, ReadableName a.name.toList :=
  fun a ha => forall_readableName_htmlForm h a ((firstOfEachName_sublist _).subset ha)

theorem shortText_ne_empty {value : String} (h : value ≠ "") (kept : Bool) : shortText kept value ≠ "" := by
  rcases shortText_cases kept value with heq | ⟨-, heq | heq⟩
  · rwa [heq]
  · rw [heq]
    decide
  · rw [heq]
    decide

mutual

theorem legible_settled : ∀ {n : Node} (kept raw : Bool), Legible n → Legible (settled kept raw n)
  | .element tag attrs children space, kept, raw, ⟨htag, hnames, hempty, hraw, hchildren⟩ => by
    refine ⟨htag, readableName_of_mem_rereadAttributes hnames, fun hmem => ?_,
      rawBelow_settledAll _ _ hraw, legibleBelow_settledAll _ _ hchildren⟩
    rw [hempty hmem]
    rfl
  | .text value, kept, raw, h => by
    cases raw with
    | false => exact shortText_ne_empty h kept
    | true => exact shortText_ne_empty (escapeText_ne_empty h) kept
  | .comment data, kept, raw, h => endsNoComment_shortText h kept

theorem legibleBelow_settledAll : ∀ {ns : List Node} (kept raw : Bool), LegibleBelow ns →
    LegibleBelow (settledAll kept raw ns)
  | [], _, _, _ => trivial
  | n :: ns, kept, raw, ⟨hn, hnext, hns⟩ => by
    refine ⟨legible_settled kept raw hn, fun htext => head_settledAll (hnext ?_),
      legibleBelow_settledAll kept raw hns⟩
    rwa [← isText_settled kept raw]

end

mutual

theorem isNamed_settled : ∀ {n : Node} (kept raw : Bool), (∀ m ∈ n.nodes, IsNamed m) →
    ∀ m ∈ (settled kept raw n).nodes, IsNamed m
  | .element tag attrs children space, kept, raw, h => by
    obtain ⟨hself, hbelow⟩ := forall_nodes_element.1 h
    exact forall_nodes_element.2 ⟨hself, isNamed_settledAll _ _ hbelow⟩
  | .text _, _, _, _ => forall_nodes_text.2 trivial
  | .comment _, _, _, _ => forall_nodes_comment.2 trivial

theorem isNamed_settledAll : ∀ {ns : List Node} (kept raw : Bool), (∀ n ∈ nodesAll ns, IsNamed n) →
    ∀ n ∈ nodesAll (settledAll kept raw ns), IsNamed n
  | [], _, _, h => h
  | n :: ns, kept, raw, h => by
    obtain ⟨hn, hns⟩ := forall_nodesAll_cons.1 h
    exact forall_nodesAll_cons.2 ⟨isNamed_settled kept raw hn, isNamed_settledAll kept raw hns⟩

end

/-- Reading what came back again changes nothing if its HTML is the same as before. -/
theorem settledAll_settledAll {t : Fragment} (h : LegibleBelow t) (hnamed : ∀ n ∈ nodesAll t, IsNamed n)
    (hsame : toHtml (settledAll false false t) = toHtml t) :
    settledAll false false (settledAll false false t) = settledAll false false t := by
  have hfirst := parseFragment_toHtml_of_legible h hnamed
  have hsecond := parseFragment_toHtml_of_legible (legibleBelow_settledAll false false h)
    (isNamed_settledAll false false hnamed)
  rw [hsame, hfirst] at hsecond
  exact (Except.ok.inj hsecond).symm

end MarkupCleaner.Output
