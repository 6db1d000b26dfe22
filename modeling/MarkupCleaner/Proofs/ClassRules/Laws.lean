import MarkupCleaner.Proofs.ClassRules.Lead
import MarkupCleaner.Proofs.ClassRules.Outcomes
import Mathlib.Data.List.Induction
import Mathlib.Data.List.ReduceOption

/-!
# Laws of the class rules

Tokens meet only where repetitions are dropped, at the very end. So rules can be applied to the parts of a
list, and to the distinct tokens of it. The order in which tokens and patterns for removal are listed makes
no difference to a result; but if one pattern is found in a token in which the search for another one
breaks, it decides whether there is a result.
-/

namespace MarkupCleaner.ClassRules

open Attributes

/-- There is only one fault, so that what rules come to is given by the results. -/
theorem applied_ext {α : Type} {x y : Applied α} (h : ∀ a, x = .ok a ↔ y = .ok a) : x = y := by
  cases x with
  | ok a => exact ((h a).1 rfl).symm
  | error fault =>
    cases y with
    | ok a => exact absurd ((h a).2 rfl) nofun
    | error fault' => rfl

namespace Engine

/-! ## Token by token -/

section

variable (e : Engine)

theorem values_cons (token : String) (tokens : List String) :
    e.values (token :: tokens) =
      e.outcome token >>= fun value? => (value?.toList ++ ·) <$> e.values tokens := by
  rw [values, keep, values, outcome]
  cases e.removes token with
  | error fault => rfl
  | ok isRemoved =>
    cases isRemoved with
    | true =>
      cases e.keep tokens with
      | error fault => rfl
      | ok kept => exact (id_map (kept.mapM e.rename)).symm
    | false =>
      cases e.keep tokens with
      | error fault => cases e.rename token <;> rfl
      | ok kept =>
        change (token :: kept).mapM e.rename = _
        rw [List.mapM_cons]
        cases e.rename token with
        | error fault => rfl
        | ok value => rfl

/-- The values of tokens are what comes of those that are not removed. -/
theorem values_eq (tokens : List String) :
    e.values tokens = List.reduceOption <$> tokens.mapM e.outcome := by
  induction tokens with
  | nil => rfl
  | cons token tokens ih =>
    rw [values_cons, ih, List.mapM_cons]
    cases e.outcome token with
    | error fault => rfl
    | ok value? =>
      cases tokens.mapM e.outcome with
      | error fault => rfl
      | ok values => cases value? <;> rfl

theorem values_append (xs ys : List String) : e.values (xs ++ ys) =
    e.values xs >>= fun front => (front ++ ·) <$> e.values ys := by
  rw [values_eq, values_eq, values_eq, List.mapM_append]
  cases xs.mapM e.outcome with
  | error fault => rfl
  | ok front =>
    cases ys.mapM e.outcome with
    | error fault => rfl
    | ok back => exact congrArg Except.ok (List.reduceOption_append front back)

theorem apply_eq_ok_iff {tokens result : List String} : e.apply tokens = .ok result ↔
    ∃ outcomes, List.Forall₂ (fun token value? => e.outcome token = .ok value?) tokens outcomes ∧
      distinctTokens (outcomes.reduceOption.map e.withLead) = result := by
  rw [apply_eq_map_values, values_eq]
  simp only [except_map_eq_ok, mapM_eq_ok_iff_forall₂]
  constructor
  · rintro ⟨_, ⟨outcomes, houtcomes, rfl⟩, hresult⟩
    exact ⟨outcomes, houtcomes, hresult⟩
  · rintro ⟨outcomes, houtcomes, hresult⟩
    exact ⟨_, ⟨outcomes, houtcomes, rfl⟩, hresult⟩

/-- Rules are applied to a list as they are to its parts. -/
theorem apply_append (xs ys : List String) : e.apply (xs ++ ys) = do
    let front ← e.apply xs
    let back ← e.apply ys
    return distinctTokens (front ++ back) := by
  rw [apply_eq_map_values, apply_eq_map_values, apply_eq_map_values, values_append]
  cases e.values xs with
  | error fault => rfl
  | ok front =>
    cases e.values ys with
    | error fault => rfl
    | ok back =>
      refine congrArg Except.ok ?_
      dsimp only
      rw [distinctTokens_append_distinctTokens, List.map_append]

variable {e}

/-- What comes of a token is among what comes of the tokens that it is one of. -/
theorem exists_apply_singleton {xs result : List String} {token : String} (happly : e.apply xs = .ok result)
    (h : token ∈ xs) : ∃ own, e.apply [token] = .ok own ∧ ∀ value ∈ own, value ∈ result := by
  obtain ⟨front, back, rfl⟩ := List.append_of_mem h
  rw [apply_append, except_bind_eq_ok] at happly
  obtain ⟨before, -, happly⟩ := happly
  obtain ⟨rest, hrest, happly⟩ := except_bind_eq_ok.1 happly
  obtain rfl := Except.ok.inj happly
  rw [← List.singleton_append, apply_append, except_bind_eq_ok] at hrest
  obtain ⟨own, hown, hrest⟩ := hrest
  obtain ⟨after, -, hrest⟩ := except_bind_eq_ok.1 hrest
  obtain rfl := Except.ok.inj hrest
  refine ⟨own, hown, fun value hvalue => ?_⟩
  have hne : value ≠ "" := by
    rintro rfl
    exact (mem_apply hown).2 hvalue
  simp only [mem_distinctTokens, List.mem_append, hvalue, hne, ne_eq, not_false_eq_true, true_or, or_true,
    and_true]

/-- A token that has come before adds nothing. -/
theorem apply_concat_of_mem {xs : List String} {token : String} (h : token ∈ xs) :
    e.apply (xs ++ [token]) = e.apply xs := by
  rw [apply_append]
  cases happly : e.apply xs with
  | error fault => rfl
  | ok result =>
    obtain ⟨own, hown, hsub⟩ := exists_apply_singleton happly h
    obtain ⟨hdistinct, hne⟩ := mem_apply happly
    have hnothing : (distinctTokens own).filter (· ∉ result) = [] := by
      refine List.filter_eq_nil_iff.2 fun value hvalue => ?_
      rw [decide_eq_true_iff, not_not]
      exact hsub value (mem_distinctTokens.1 hvalue).1
    rw [hown]
    refine congrArg Except.ok ?_
    rw [distinctTokens_append, hnothing, List.append_nil, distinctTokens_eq_self hdistinct hne]

/-- Repeated tokens make no difference. -/
theorem apply_distinctTokens {xs : List String} (h : "" ∉ xs) :
    e.apply (distinctTokens xs) = e.apply xs := by
  induction xs using List.reverseRec with
  | nil => rfl
  | append_singleton xs token ih =>
    rw [List.mem_append, not_or, List.mem_singleton] at h
    have htoken : distinctTokens [token] = [token] :=
      distinctTokens_eq_self (List.nodup_singleton token) (by rw [List.mem_singleton]; exact h.2)
    rw [distinctTokens_append, htoken]
    by_cases hmem : token ∈ xs
    · rw [List.filter_cons_of_neg (by rwa [decide_eq_true_iff, not_not]), List.filter_nil, List.append_nil,
        ih h.1, apply_concat_of_mem hmem]
    · rw [List.filter_cons_of_pos (by rwa [decide_eq_true_iff]), List.filter_nil, apply_append, ih h.1,
        ← apply_append]

theorem apply_congr {e e' : Engine} (hlead : e'.lead = e.lead) {tokens : List String}
    (h : ∀ token ∈ tokens, e'.outcome token = e.outcome token) : e'.apply tokens = e.apply tokens := by
  have hvalues : e'.values tokens = e.values tokens := by
    induction tokens with
    | nil => rfl
    | cons token tokens ih =>
      obtain ⟨htoken, htokens⟩ := List.forall_mem_cons.1 h
      rw [values_cons, values_cons, htoken, ih htokens]
  have hwith : e'.withLead = e.withLead := by
    funext value
    rw [withLead, withLead, hlead]
  rw [apply_eq_map_values, apply_eq_map_values, hvalues, hwith]

end

end Engine

/-! ## The order of the entries for removal -/

/-- The same rules with the entries for removal in another order. -/
structure Reorders (rules rules' : ClassRules) : Prop where
  remove : rules'.remove.Perm rules.remove
  removeRegex : rules'.removeRegex.Perm rules.removeRegex
  rename : rules'.rename = rules.rename
  lead : rules'.lead = rules.lead

/-- The order of the patterns for removal decides whether the rules stop at a token: one of the patterns is
    found in it, but the search for another one breaks. -/
def OrderDecides (rules : ClassRules) (token : String) : Prop :=
  token ∉ rules.remove ∧ (∃ pattern ∈ rules.removeRegex, Finds pattern token) ∧
    ∃ pattern ∈ rules.removeRegex, Breaks pattern token

theorem FindsOne.exists {token : String} {patterns : List String} (h : FindsOne token patterns) :
    ∃ pattern ∈ patterns, Finds pattern token := by
  induction h with
  | here hfinds => exact ⟨_, List.mem_cons_self, hfinds⟩
  | later _ _ ih =>
    obtain ⟨pattern, hmem, hfinds⟩ := ih
    exact ⟨pattern, List.mem_cons_of_mem _ hmem, hfinds⟩

/-- If no search breaks, the first pattern that is found comes after others that are not. -/
theorem findsOne_of_finds {token : String} {patterns : List String}
    (hcompile : ∀ pattern ∈ patterns, compiles pattern = true)
    (hbreaks : ∀ pattern ∈ patterns, ¬Breaks pattern token)
    (h : ∃ pattern ∈ patterns, Finds pattern token) : FindsOne token patterns := by
  induction patterns with
  | nil =>
    obtain ⟨_, hmem, -⟩ := h
    cases hmem
  | cons first patterns ih =>
    obtain ⟨hfirst, hcompile⟩ := List.forall_mem_cons.1 hcompile
    obtain ⟨hunbroken, hbreaks⟩ := List.forall_mem_cons.1 hbreaks
    rcases finds_or_misses_or_breaks hfirst token with hfinds | hmisses | hbroken
    · exact .here hfinds
    · obtain ⟨pattern, hmem, hfinds⟩ := h
      rcases List.mem_cons.1 hmem with rfl | hmem
      · exact absurd hmisses (not_misses_of_finds hfinds)
      · exact .later hmisses (ih hcompile hbreaks ⟨pattern, hmem, hfinds⟩)
    · exact absurd hbroken hunbroken

namespace Reorders

variable {rules rules' : ClassRules}

theorem symm (h : Reorders rules rules') : Reorders rules' rules where
  remove := h.remove.symm
  removeRegex := h.removeRegex.symm
  rename := h.rename.symm
  lead := h.lead.symm

theorem allCompile (h : Reorders rules rules') (hcompile : rules.AllCompile) : rules'.AllCompile := by
  refine ⟨fun pattern hpattern => hcompile.1 pattern (h.removeRegex.mem_iff.1 hpattern), ?_⟩
  rw [h.rename]
  exact hcompile.2

theorem orderDecides (h : Reorders rules rules') {token : String} (hdecides : OrderDecides rules token) :
    OrderDecides rules' token := by
  obtain ⟨hlisted, ⟨pattern, hpattern, hfinds⟩, ⟨other, hother, hbreaks⟩⟩ := hdecides
  exact ⟨mt h.remove.mem_iff.1 hlisted, ⟨pattern, h.removeRegex.mem_iff.2 hpattern, hfinds⟩,
    ⟨other, h.removeRegex.mem_iff.2 hother, hbreaks⟩⟩

theorem keeps (h : Reorders rules rules') {token : String} (hkeeps : Keeps rules token) :
    Keeps rules' token :=
  ⟨mt h.remove.mem_iff.1 hkeeps.1,
    fun pattern hpattern => hkeeps.2 pattern (h.removeRegex.mem_iff.1 hpattern)⟩

theorem removes (h : Reorders rules rules') (hcompile : rules.AllCompile) {token : String}
    (hsame : rules'.removeRegex = rules.removeRegex ∨ ¬OrderDecides rules token)
    (hremoves : Removes rules token) : Removes rules' token := by
  by_cases hlisted : token ∈ rules.remove
  · exact .inl (h.remove.mem_iff.2 hlisted)
  · have hfinds := hremoves.resolve_left hlisted
    rcases hsame with hsame | hdecides
    · rw [← hsame] at hfinds
      exact .inr hfinds
    · obtain ⟨pattern, hpattern, hfound⟩ := hfinds.exists
      refine .inr (findsOne_of_finds (h.allCompile hcompile).1 (fun other hother hbreaks => hdecides ?_)
        ⟨pattern, h.removeRegex.mem_iff.2 hpattern, hfound⟩)
      exact ⟨hlisted, ⟨pattern, hpattern, hfound⟩, ⟨other, h.removeRegex.mem_iff.1 hother, hbreaks⟩⟩

theorem becomes (h : Reorders rules rules') (hcompile : rules.AllCompile) {token : String}
    (hsame : rules'.removeRegex = rules.removeRegex ∨ ¬OrderDecides rules token) {value? : Option String}
    (hbecomes : Becomes rules token value?) : Becomes rules' token value? := by
  cases hbecomes with
  | removed hremoves => exact .removed (h.removes hcompile hsame hremoves)
  | renamed hkeeps hrenames =>
    rw [← h.rename] at hrenames
    exact .renamed (h.keeps hkeeps) hrenames

theorem not_keeps_of_removes (h : Reorders rules rules') {token : String} (hremoves : Removes rules token) :
    ¬Keeps rules' token := by
  intro hkeeps
  obtain ⟨hlisted, hmisses⟩ := h.symm.keeps hkeeps
  obtain ⟨pattern, hpattern, hfinds⟩ := (hremoves.resolve_left hlisted).exists
  exact not_misses_of_finds hfinds (hmisses pattern hpattern)

/-- In any order a token becomes the same if it becomes anything. -/
theorem becomes_unique (h : Reorders rules rules') (hcompile : rules.AllCompile) {token : String}
    {value? value?' : Option String} (hbecomes : Becomes rules token value?)
    (hbecomes' : Becomes rules' token value?') : value?' = value? := by
  cases hbecomes with
  | removed hremoves =>
    cases hbecomes' with
    | removed _ => rfl
    | renamed hkeeps' _ => exact absurd hkeeps' (h.not_keeps_of_removes hremoves)
  | renamed hkeeps hrenames =>
    cases hbecomes' with
    | removed hremoves' => exact absurd hkeeps (h.symm.not_keeps_of_removes hremoves')
    | renamed _ hrenames' =>
      rw [h.rename, ← rename_eq_ok_iff hcompile] at hrenames'
      rw [← rename_eq_ok_iff hcompile, hrenames'] at hrenames
      rw [Except.ok.inj hrenames]

end Reorders

/-! ## The laws -/

theorem apply_readyEngine_eq_ok_iff {rules : ClassRules} (hcompile : rules.AllCompile)
    {tokens result : List String} : rules.readyEngine.apply tokens = .ok result ↔
      ∃ outcomes, List.Forall₂ (Becomes rules) tokens outcomes ∧
        result = (outcomes.reduceOption.map (rules.lead.getD "" ++ ·)).eraseDups.filter (· ≠ "") := by
  rw [Engine.apply_eq_ok_iff]
  simp only [outcome_eq_ok_iff hcompile, distinctTokens_eq_filter]
  refine exists_congr fun outcomes => and_congr_right fun _ => ?_
  exact eq_comm

theorem forall₂_unique {α β : Type} {R R' : α → β → Prop} {as : List α} {bs bs' : List β}
    (hbs : List.Forall₂ R as bs) (hbs' : List.Forall₂ R' as bs')
    (h : ∀ a b b', R a b → R' a b' → b' = b) : bs' = bs := by
  induction hbs generalizing bs' with
  | nil =>
    cases hbs'
    rfl
  | cons hb _ ih =>
    obtain _ | ⟨hb', hrest'⟩ := hbs'
    rw [h _ _ _ hb hb', ih hrest']

/-- The laws of an engine for some rules, on all lists of tokens. -/
structure Lawful (rules : ClassRules) (e : Engine) : Prop where
  /-- The rules are applied to a list as they are to two parts of it, of which repetitions are dropped
      again. If they stop at the list, they stop at one of the parts. -/
  append : ∀ xs ys, e.apply (xs ++ ys) = do
    let front ← e.apply xs
    let back ← e.apply ys
    return distinctTokens (front ++ back)
  /-- Repeated tokens make no difference. -/
  distinct : ∀ xs, "" ∉ xs → e.apply (distinctTokens xs) = e.apply xs
  /-- The order of the entries for removal makes no difference to a result. That of the listed tokens does
      not decide whether there is one, and that of the patterns does so only at a token in which one of
      them is found although the search for another one breaks. -/
  reordered : ∀ rules', Reorders rules rules' → ∃ e', engine rules' = (.ok e', []) ∧ ∀ tokens,
    (∀ result result', e.apply tokens = .ok result → e'.apply tokens = .ok result' → result' = result) ∧
      (rules'.removeRegex = rules.removeRegex ∨ (∀ token ∈ tokens, ¬OrderDecides rules token) →
        e'.apply tokens = e.apply tokens)
  /-- There is a result exactly if every token is removed or renamed. It consists of the values that come of
      the tokens, with the lead in front of them, each at its first place and without the empty one. -/
  result : ∀ tokens result, e.apply tokens = .ok result ↔
    ∃ outcomes, List.Forall₂ (Becomes rules) tokens outcomes ∧
      result = (outcomes.reduceOption.map (rules.lead.getD "" ++ ·)).eraseDups.filter (· ≠ "")

theorem Reorders.apply_unique {rules rules' : ClassRules} (h : Reorders rules rules')
    (hcompile : rules.AllCompile) {tokens result result' : List String}
    (hresult : rules.readyEngine.apply tokens = .ok result)
    (hresult' : rules'.readyEngine.apply tokens = .ok result') : result' = result := by
  obtain ⟨outcomes, houtcomes, rfl⟩ := (apply_readyEngine_eq_ok_iff hcompile).1 hresult
  obtain ⟨outcomes', houtcomes', rfl⟩ :=
    (apply_readyEngine_eq_ok_iff (h.allCompile hcompile)).1 hresult'
  have hsame : outcomes' = outcomes :=
    forall₂_unique houtcomes houtcomes' fun _ _ _ => h.becomes_unique hcompile
  rw [hsame, h.lead]

theorem Reorders.apply_eq {rules rules' : ClassRules} (h : Reorders rules rules')
    (hcompile : rules.AllCompile) {tokens : List String}
    (hsame : rules'.removeRegex = rules.removeRegex ∨ ∀ token ∈ tokens, ¬OrderDecides rules token) :
    rules'.readyEngine.apply tokens = rules.readyEngine.apply tokens := by
  refine Engine.apply_congr h.lead fun token htoken => applied_ext fun value? => ?_
  have hhere : rules'.removeRegex = rules.removeRegex ∨ ¬OrderDecides rules token :=
    hsame.imp_right fun hnever => hnever token htoken
  have hback : rules.removeRegex = rules'.removeRegex ∨ ¬OrderDecides rules' token :=
    hhere.imp Eq.symm (mt h.symm.orderDecides)
  have hcompile' := h.allCompile hcompile
  rw [outcome_eq_ok_iff hcompile, outcome_eq_ok_iff hcompile']
  exact ⟨h.symm.becomes hcompile' hback, h.becomes hcompile hhere⟩

/-- Rules whose patterns all compile give an engine that keeps the laws. -/
theorem engine_lawful {rules : ClassRules} (hcompile : rules.AllCompile) :
    ∃ e, engine rules = (.ok e, []) ∧ Lawful rules e := by
  refine ⟨rules.readyEngine, engine_eq_readyEngine hcompile, ?_⟩
  refine
    { append := Engine.apply_append _
      distinct := fun xs hne => Engine.apply_distinctTokens hne
      reordered := fun rules' hreorders => ?_
      result := fun tokens result => apply_readyEngine_eq_ok_iff hcompile }
  refine ⟨rules'.readyEngine, engine_eq_readyEngine (hreorders.allCompile hcompile), fun tokens => ?_⟩
  exact ⟨fun result result' => hreorders.apply_unique hcompile, hreorders.apply_eq hcompile⟩

/-- Rules of every kind: of five tokens two are removed, and two become the same. -/
theorem engine_lawful_figma :
    let rules : ClassRules :=
      { remove := ["hidden"], removeRegex := ["^figma-", "x$"]
        rename := [{ source := "a", target := "btn-b" },
          { source := "^btn-(.*)$", target := "button-$1", isRegex := true }]
        lead := some "tw-" }
    rules.AllCompile ∧ ∃ e, engine rules = (.ok e, []) ∧ Lawful rules e ∧
      e.apply ["a", "hidden", "figma-a", "c", "btn-b"] = .ok ["tw-button-b", "tw-c"] := by
  intro rules
  have hcompile : rules.AllCompile := by decide +kernel
  obtain ⟨e, he, hlawful⟩ := engine_lawful hcompile
  have hrun : ((engine rules).1.toOption.bind fun e =>
      (e.apply ["a", "hidden", "figma-a", "c", "btn-b"]).toOption) = some ["tw-button-b", "tw-c"] := by
    decide +kernel
  rw [he] at hrun
  exact ⟨hcompile, e, he, hlawful, except_toOption_eq_some.1 hrun⟩

/-- Two patterns, one of which is found in a token in which the search for the other one breaks: the rules
    remove the token in one order of them and stop at it in the other. -/
theorem apply_reordered_ne :
    let rules : ClassRules := { removeRegex := ["xyy", "(?:(x)|y)*+"] }
    let rules' : ClassRules := { removeRegex := ["(?:(x)|y)*+", "xyy"] }
    rules.AllCompile ∧ rules'.AllCompile ∧ Reorders rules rules' ∧
      ∃ e e', engine rules = (.ok e, []) ∧ engine rules' = (.ok e', []) ∧
        e.apply ["xyy"] = .ok [] ∧ e'.apply ["xyy"] = .error ⟨⟩ := by
  intro rules rules'
  have hcompile : rules.AllCompile := by decide +kernel
  have hcompile' : rules'.AllCompile := by decide +kernel
  have hreorders : Reorders rules rules' := ⟨.refl _, .swap _ _ _, rfl, rfl⟩
  refine ⟨hcompile, hcompile', hreorders, rules.readyEngine, rules'.readyEngine,
    engine_eq_readyEngine hcompile, engine_eq_readyEngine hcompile', ?_, ?_⟩
  · decide +kernel
  · decide +kernel

end MarkupCleaner.ClassRules
