import MarkupCleaner.Proofs.ClassRules.Malformed
import MarkupCleaner.Proofs.ClassRules.Words
import MarkupCleaner.Proofs.Tree.Nodes

/-!
# The class rules on a tree

Rules rewrite the class tokens of every element of a tree as they rewrite a list of tokens. What is
written is one class value, and from it the words of the new tokens are read again, each at its first
place: these are the new tokens themselves exactly if none of them holds white space.
-/

namespace MarkupCleaner

open Node Attributes

/-- Whether a user's pattern is well formed and within the limits of the pattern language. -/
def ClassRules.compiles (pattern : String) : Bool :=
  match ClassRules.compileUser pattern with
  | .valid _ => true
  | .invalid _ => false
  | .refused _ _ => false

/-- Rules whose patterns all compile. -/
def ClassRules.AllCompile (rules : ClassRules) : Prop :=
  (∀ pattern ∈ rules.removeRegex, ClassRules.compiles pattern = true) ∧
    ∀ rule ∈ rules.rename, rule.source ≠ "" → rule.isRegex = true → ClassRules.compiles rule.source = true

/-- Rules that write no white space: neither a target nor the lead has any. -/
def ClassRules.WritesWords (rules : ClassRules) : Prop :=
  (∀ rule ∈ rules.rename, isOneWord rule.target = true) ∧ isOneWord (rules.lead.getD "") = true

instance : DecidablePred ClassRules.AllCompile := fun _ => inferInstanceAs (Decidable (_ ∧ _))

instance : DecidablePred ClassRules.WritesWords := fun _ => inferInstanceAs (Decidable (_ ∧ _))

namespace ClassRules

/-! ## The engine -/

theorem fits_of_compiles {pattern : String} (h : compiles pattern = true) :
    refusal? pattern = none ∧ warning? pattern = none := by
  rw [compiles] at h
  unfold refusal? warning?
  cases hcompile : compileUser pattern with
  | valid p => exact ⟨rfl, rfl⟩
  | invalid warning =>
    rw [hcompile] at h
    cases h
  | refused fault message =>
    rw [hcompile] at h
    cases h

theorem compiles_of_mem_patterns {rules : ClassRules} (h : rules.AllCompile) :
    ∀ pattern ∈ rules.patterns, compiles pattern = true := by
  intro pattern hpattern
  rcases List.mem_append.1 hpattern with hremove | hrename
  · exact h.1 pattern hremove
  · obtain ⟨rule, hrule, hsome⟩ := List.mem_filterMap.1 hrename
    obtain ⟨hsource, hregex, rfl⟩ := RenameRule.pattern?_eq_some_iff.1 hsome
    exact h.2 rule hrule hsource hregex

theorem target_of_ready {rule : RenameRule} {r : Rename} (h : ready? rule = some r) :
    r.target = rule.target := by
  unfold ready? at h
  split at h
  · cases h
  · split at h
    · obtain ⟨p, -, rfl⟩ := Option.map_eq_some_iff.1 h
      rfl
    · obtain rfl := Option.some.inj h
      rfl

/-- Rules whose patterns all compile give their engine, and nothing is logged. -/
theorem engine_eq_readyEngine {rules : ClassRules} (h : rules.AllCompile) :
    engine rules = (.ok rules.readyEngine, []) := by
  have hfits := fun pattern hpattern => fits_of_compiles (compiles_of_mem_patterns h pattern hpattern)
  have hrefusal : rules.patterns.findSome? refusal? = none :=
    List.findSome?_eq_none_iff.2 fun pattern hpattern => (hfits pattern hpattern).1
  have hwarnings : rules.patterns.filterMap warning? = [] :=
    List.filterMap_eq_nil_iff.2 fun pattern hpattern => (hfits pattern hpattern).2
  rw [engine_eq, unlessRefused, hrefusal, warnings_eq_filterMap hrefusal, hwarnings]

theorem writesWords_readyEngine {rules : ClassRules} (h : rules.WritesWords) :
    rules.readyEngine.WritesWords := by
  refine ⟨fun r hr => ?_, h.2⟩
  obtain ⟨rule, hrule, hready⟩ := List.mem_filterMap.1 hr
  rw [target_of_ready hready]
  exact h.1 rule hrule

namespace Engine

/-! ## One element -/

theorem applyToAttributes_of_no_tokens (e : Engine) {attrs : Attributes} (h : attrs.classTokens = []) :
    e.applyToAttributes attrs = .ok attrs := by
  rw [applyToAttributes, if_pos (List.isEmpty_iff.2 h)]
  rfl

theorem applyToAttributes_eq_ok_iff (e : Engine) {attrs attrs' : Attributes} (h : attrs.classTokens ≠ []) :
    e.applyToAttributes attrs = .ok attrs' ↔
      ∃ tokens, e.apply attrs.classTokens = .ok tokens ∧ attrs.setClassTokens tokens = attrs' := by
  rw [applyToAttributes, if_neg fun hnil => h (List.isEmpty_iff.1 hnil), except_bind_eq_ok]
  simp only [pure, Except.pure, Except.ok.injEq]

theorem mem_apply {e : Engine} {tokens result : List String} (h : e.apply tokens = .ok result) :
    result.Nodup ∧ "" ∉ result := by
  obtain ⟨kept, -, h⟩ := except_bind_eq_ok.1 h
  obtain ⟨renamed, -, h⟩ := except_bind_eq_ok.1 h
  obtain rfl := Except.ok.inj h
  exact ⟨nodup_distinctTokens _, fun hmem => (mem_distinctTokens.1 hmem).2 rfl⟩

/-- What the rules make of the attributes of an element that has the class tokens `tokens` now: one class
    value is written, and the words in it are read, which are these tokens if none of them holds white
    space. -/
structure Writes (tokens : List String) (attrs : Attributes) : Prop where
  value : attrs.classValues = if tokens = [] then [] else [" ".intercalate tokens]
  words : attrs.classTokens = distinctTokens (tokens.flatMap wordsOf)
  agrees : attrs.classTokens = tokens ↔ ∀ token ∈ tokens, isOneWord token = true

theorem writes_setClassTokens {e : Engine} {tokens result : List String}
    (h : e.apply tokens = .ok result) (attrs : Attributes) :
    Writes result (attrs.setClassTokens result) where
  value := classValues_setClassTokens attrs result
  words := classTokens_setClassTokens attrs result
  agrees := by
    obtain ⟨hdistinct, hne⟩ := mem_apply h
    rw [classTokens_setClassTokens, distinctTokens_flatMap_wordsOf_eq_self_iff hdistinct hne]

/-- A node before and after the sweep: an element keeps its tag and its namespace, and it keeps its
    attributes, too, unless it has class tokens. -/
def Sweeps (e : Engine) : Node → Node → Prop
  | .element tag attrs _ ns, .element tag' attrs' _ ns' =>
    tag' = tag ∧ ns' = ns ∧ (attrs.classTokens = [] → attrs' = attrs) ∧
      (attrs.classTokens ≠ [] → ∃ tokens, e.apply attrs.classTokens = .ok tokens ∧ Writes tokens attrs')
  | .text value, .text value' => value' = value
  | .comment data, .comment data' => data' = data
  | _, _ => False

/-! ## Trees -/

/-- A node and what the sweep makes of it: only the attributes of an element are rewritten. What is below
    an element is swept on its own. -/
def Rewrites (e : Engine) : Node → Node → Prop
  | .element tag attrs _ ns, .element tag' attrs' _ ns' =>
    tag' = tag ∧ ns' = ns ∧ e.applyToAttributes attrs = .ok attrs'
  | .text value, .text value' => value' = value
  | .comment data, .comment data' => data' = data
  | _, _ => False

mutual

theorem forall₂_rewrites_applyToNode {e : Engine} : ∀ {n m : Node}, e.applyToNode n = .ok m →
    List.Forall₂ e.Rewrites n.nodes m.nodes
  | .element tag attrs children ns, m, h => by
    obtain ⟨attrs', hattrs, h⟩ := except_bind_eq_ok.1 h
    obtain ⟨children', hchildren, h⟩ := except_bind_eq_ok.1 h
    obtain rfl := Except.ok.inj h
    exact .cons ⟨rfl, rfl, hattrs⟩ (forall₂_rewrites_applyBelow hchildren)
  | .text value, m, h => by
    obtain rfl := Except.ok.inj h
    exact .cons rfl .nil
  | .comment data, m, h => by
    obtain rfl := Except.ok.inj h
    exact .cons rfl .nil

/-- Node by node, the sweep rewrites the attributes of elements. -/
theorem forall₂_rewrites_applyBelow {e : Engine} : ∀ {ns ms : List Node}, e.applyBelow ns = .ok ms →
    List.Forall₂ e.Rewrites (nodesAll ns) (nodesAll ms)
  | [], ms, h => by
    obtain rfl := Except.ok.inj h
    exact .nil
  | n :: ns, ms, h => by
    obtain ⟨n', hn, h⟩ := except_bind_eq_ok.1 h
    obtain ⟨ns', hns, h⟩ := except_bind_eq_ok.1 h
    obtain rfl := Except.ok.inj h
    exact List.rel_append (forall₂_rewrites_applyToNode hn) (forall₂_rewrites_applyBelow hns)

end

theorem Rewrites.sweeps {e : Engine} {n m : Node} (h : e.Rewrites n m) : e.Sweeps n m := by
  cases n with
  | element tag attrs children ns =>
    cases m with
    | element tag' attrs' children' ns' =>
      obtain ⟨rfl, rfl, happly⟩ := h
      refine ⟨rfl, rfl, fun hnil => ?_, fun hne => ?_⟩
      · rw [e.applyToAttributes_of_no_tokens hnil] at happly
        exact (Except.ok.inj happly).symm
      · obtain ⟨tokens, htokens, rfl⟩ := (e.applyToAttributes_eq_ok_iff hne).1 happly
        exact ⟨tokens, htokens, writes_setClassTokens htokens attrs⟩
    | text value => exact h
    | comment data => exact h
  | text value =>
    cases m with
    | element tag' attrs' children' ns' => exact h
    | text value' => exact h
    | comment data => exact h
  | comment data =>
    cases m with
    | element tag' attrs' children' ns' => exact h
    | text value => exact h
    | comment data' => exact h

/-- Node by node, the sweep does to every element what the rules do to its tokens. -/
theorem forall₂_applyBelow {e : Engine} {ns ms : List Node} (h : e.applyBelow ns = .ok ms) :
    List.Forall₂ e.Sweeps (nodesAll ns) (nodesAll ms) :=
  (forall₂_rewrites_applyBelow h).imp fun _ _ hrewrites => hrewrites.sweeps

/-- A node on which the rules do not stop at a broken group. -/
def Accepts (e : Engine) : Node → Prop :=
  OnElement fun _ attrs => attrs.classTokens ≠ [] → ∃ tokens, e.apply attrs.classTokens = .ok tokens

theorem exists_applyToAttributes_iff {e : Engine} {attrs : Attributes} :
    (∃ attrs', e.applyToAttributes attrs = .ok attrs') ↔
      (attrs.classTokens ≠ [] → ∃ tokens, e.apply attrs.classTokens = .ok tokens) := by
  by_cases hnil : attrs.classTokens = []
  · exact iff_of_true ⟨attrs, e.applyToAttributes_of_no_tokens hnil⟩ fun h => absurd hnil h
  · simp only [e.applyToAttributes_eq_ok_iff hnil]
    constructor
    · rintro ⟨attrs', tokens, htokens, -⟩ -
      exact ⟨tokens, htokens⟩
    · intro h
      obtain ⟨tokens, htokens⟩ := h hnil
      exact ⟨_, tokens, htokens, rfl⟩

mutual

theorem exists_applyToNode_iff {e : Engine} : ∀ n : Node,
    (∃ m, e.applyToNode n = .ok m) ↔ ∀ k ∈ n.nodes, e.Accepts k
  | .element tag attrs children ns => by
    have hattrs : e.Accepts (.element tag attrs children ns) ↔
        ∃ attrs', e.applyToAttributes attrs = .ok attrs' :=
      exists_applyToAttributes_iff.symm
    rw [forall_nodes_element, hattrs, ← exists_applyBelow_iff children]
    simp only [applyToNode, except_bind_eq_ok, pure, Except.pure, Except.ok.injEq]
    constructor
    · rintro ⟨-, attrs', hattrs, children', hchildren, -⟩
      exact ⟨⟨attrs', hattrs⟩, ⟨children', hchildren⟩⟩
    · rintro ⟨⟨attrs', hattrs⟩, ⟨children', hchildren⟩⟩
      exact ⟨_, attrs', hattrs, children', hchildren, rfl⟩
  | .text value => iff_of_true ⟨_, rfl⟩ (forall_nodes_text.2 trivial)
  | .comment data => iff_of_true ⟨_, rfl⟩ (forall_nodes_comment.2 trivial)

/-- The sweep comes to an end exactly if the rules do for the tokens of every element. -/
theorem exists_applyBelow_iff {e : Engine} : ∀ ns : List Node,
    (∃ ms, e.applyBelow ns = .ok ms) ↔ ∀ n ∈ nodesAll ns, e.Accepts n
  | [] => iff_of_true ⟨[], rfl⟩ fun _ h => nomatch h
  | n :: ns => by
    rw [forall_nodesAll_cons, ← exists_applyToNode_iff n, ← exists_applyBelow_iff ns]
    simp only [applyBelow, except_bind_eq_ok, pure, Except.pure, Except.ok.injEq]
    constructor
    · rintro ⟨-, n', hn, ns', hns, -⟩
      exact ⟨⟨n', hn⟩, ⟨ns', hns⟩⟩
    · rintro ⟨⟨n', hn⟩, ⟨ns', hns⟩⟩
      exact ⟨_, n', hn, ns', hns, rfl⟩

end

/-- A node before and after the sweep whose class tokens are read as the rules have made them. -/
def Agrees (e : Engine) : Node → Node → Prop
  | .element _ attrs _ _, .element _ attrs' _ _ =>
    attrs.classTokens ≠ [] → e.apply attrs.classTokens = .ok attrs'.classTokens
  | _, _ => True

/-- Rules that write no white space are read back as they were written. -/
theorem Sweeps.agrees {e : Engine} (he : e.WritesWords) {n m : Node} (h : e.Sweeps n m) : e.Agrees n m := by
  cases n with
  | element tag attrs children ns =>
    cases m with
    | element tag' attrs' children' ns' =>
      intro hne
      obtain ⟨tokens, htokens, hwrites⟩ := h.2.2.2 hne
      have hwords : ∀ token ∈ tokens, isOneWord token = true := by
        refine isOneWord_of_mem_apply he (fun token htoken => ?_) htokens
        obtain ⟨⟨value, -, hword⟩, -⟩ := mem_classTokens.1 htoken
        exact isOneWord_of_mem_wordsOf hword
      rw [hwrites.agrees.2 hwords]
      exact htokens
    | text value => trivial
    | comment data => trivial
  | text value => trivial
  | comment data => trivial

end Engine

/-- The sweep of a tree, under rules whose patterns all compile. It comes to an end exactly if the rules do
    for the tokens of every element. Then what is read from an element that had class tokens are the words
    of the tokens that the rules make of these, each at its first place; they are those tokens exactly if
    none of them holds white space, and none does if no target and no lead has any. -/
theorem classTokens_applyBelow {rules : ClassRules} (hcompile : rules.AllCompile) (t : Fragment) :
    ∃ e, engine rules = (.ok e, []) ∧
      ((∃ t', e.applyBelow t = .ok t') ↔ ∀ n ∈ nodesAll t, e.Accepts n) ∧
      ∀ t', e.applyBelow t = .ok t' → List.Forall₂ e.Sweeps (nodesAll t) (nodesAll t') ∧
        (rules.WritesWords → List.Forall₂ e.Agrees (nodesAll t) (nodesAll t')) := by
  refine ⟨rules.readyEngine, engine_eq_readyEngine hcompile, Engine.exists_applyBelow_iff t,
    fun t' h => ⟨Engine.forall₂_applyBelow h, fun hrules => ?_⟩⟩
  exact (Engine.forall₂_applyBelow h).imp fun _ _ hsweeps => hsweeps.agrees (writesWords_readyEngine hrules)

/-- Rules of every kind on an element with four class tokens. -/
theorem classTokens_applyBelow_button :
    let rules : ClassRules :=
      { remove := ["hidden"], removeRegex := ["^figma-"],
        rename := [{ source := "^btn-(.*)$", target := "button-$1", isRegex := true }],
        lead := some "tw-" }
    let t : Fragment := [.element "a" [⟨"class", "hidden figma-x btn-main  keep"⟩] [] none]
    let t' : Fragment := [.element "a" [⟨"class", "tw-button-main tw-keep"⟩] [] none]
    rules.AllCompile ∧ rules.WritesWords ∧ ∃ e, engine rules = (.ok e, []) ∧
      e.applyBelow t = .ok t' ∧ (∀ n ∈ nodesAll t, e.Accepts n) ∧
      List.Forall₂ e.Sweeps (nodesAll t) (nodesAll t') ∧
      List.Forall₂ e.Agrees (nodesAll t) (nodesAll t') := by
  intro rules t t'
  have hcompile : rules.AllCompile := by decide +kernel
  have hwords : rules.WritesWords := by decide +kernel
  have hrun : ((engine rules).1.toOption.bind fun e => (e.applyBelow t).toOption) = some t' := by
    decide +kernel
  obtain ⟨e, he, haccepts, hsweep⟩ := classTokens_applyBelow hcompile t
  have happly : e.applyBelow t = .ok t' := by
    rw [he] at hrun
    exact except_toOption_eq_some.1 hrun
  obtain ⟨hsweeps, hagrees⟩ := hsweep t' happly
  exact ⟨hcompile, hwords, e, he, happly, haccepts.1 ⟨t', happly⟩, hsweeps, hagrees hwords⟩

/-- A target with a space in it: the rules make two tokens of two, one of them being two words, and what
    is written has a word twice, of which only the first is read. -/
theorem classTokens_applyBelow_ne :
    let rules : ClassRules := { rename := [{ source := "a", target := "b c" }] }
    let t : Fragment := [.element "p" [⟨"class", "a b"⟩] [] none]
    let t' : Fragment := [.element "p" [⟨"class", "b c b"⟩] [] none]
    rules.AllCompile ∧ ∃ e, engine rules = (.ok e, []) ∧ e.applyBelow t = .ok t' ∧
      e.apply (Attributes.classTokens [⟨"class", "a b"⟩]) = .ok ["b c", "b"] ∧
      Attributes.classTokens [⟨"class", "b c b"⟩] = ["b", "c"] ∧
      ¬List.Forall₂ e.Agrees (nodesAll t) (nodesAll t') := by
  refine ⟨by decide, ⟨[], [], [.literal "a" "b c"], none⟩, rfl, ?_, ?_, ?_, ?_⟩
  · decide +kernel
  · decide +kernel
  · decide +kernel
  · rintro (_ | ⟨hagrees, -⟩)
    have happly := hagrees (by decide +kernel)
    revert happly
    decide +kernel

end ClassRules
end MarkupCleaner
