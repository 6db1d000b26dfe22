import MarkupCleaner.Proofs.ClassRules.Sweep
import MarkupCleaner.Proofs.Pattern.Search

/-!
# Tokens one by one

What rules make of a token does not depend on the tokens next to it: it is removed, or it is renamed by one
rule after the other. Patterns for removal are searched for in turn until one is found, so that a search
which breaks stops the rules only if no pattern before it is found.
-/

namespace MarkupCleaner.ClassRules

/-! ## Patterns in tokens -/

/-- A search finds the pattern in the token. -/
def Finds (pattern token : String) : Prop :=
  ∃ p m, compiled? pattern = some p ∧ p.IsLeftmost token.toList m

/-- The pattern matches nowhere in the token. -/
def Misses (pattern token : String) : Prop := ∃ p, compiled? pattern = some p ∧ p.Misses token.toList

/-- The search for the pattern in the token stops at a broken group. -/
def Breaks (pattern token : String) : Prop := ∃ p, compiled? pattern = some p ∧ p.Breaks token.toList

/-- Some pattern of a list matches in the token, and those before it match nowhere. -/
inductive FindsOne (token : String) : List String → Prop
  | here {pattern : String} {patterns : List String} : Finds pattern token →
      FindsOne token (pattern :: patterns)
  | later {pattern : String} {patterns : List String} : Misses pattern token → FindsOne token patterns →
      FindsOne token (pattern :: patterns)

/-- The token is removed: it is listed, or a pattern is found in it. -/
def Removes (rules : ClassRules) (token : String) : Prop :=
  token ∈ rules.remove ∨ FindsOne token rules.removeRegex

/-- The token stays: it is not listed, and no pattern is found in it. -/
def Keeps (rules : ClassRules) (token : String) : Prop :=
  token ∉ rules.remove ∧ ∀ pattern ∈ rules.removeRegex, Misses pattern token

/-! ## Renames -/

/-- What a rename makes of a value. A literal one replaces its source, and one by a pattern replaces the
    leftmost match by what the template expands to. -/
inductive Renames (rule : RenameRule) (value : String) : String → Prop
  | sourceless : rule.source = "" → Renames rule value value
  | literal : rule.source ≠ "" → rule.isRegex = false →
      Renames rule value (if value = rule.source then rule.target else value)
  | missed : rule.source ≠ "" → rule.isRegex = true → Misses rule.source value → Renames rule value value
  | found {p : CompiledPattern} {m : Pattern.Match} : rule.source ≠ "" → rule.isRegex = true →
      compiled? rule.source = some p → p.IsLeftmost value.toList m →
      Renames rule value (.ofList (value.toList.take m.span.start ++ expand p m rule.target.toList ++
        value.toList.drop m.span.stop))

/-- What renames make of a value, each applied to what the ones before have left. -/
inductive RenamesAll : List RenameRule → String → String → Prop
  | nil (value : String) : RenamesAll [] value value
  | cons {rule : RenameRule} {rules : List RenameRule} {value middle result : String} :
      Renames rule value middle → RenamesAll rules middle result → RenamesAll (rule :: rules) value result

/-- What rules make of a token: nothing if they remove it, or else what their renames make of it. -/
inductive Becomes (rules : ClassRules) (token : String) : Option String → Prop
  | removed : Removes rules token → Becomes rules token none
  | renamed {value : String} : Keeps rules token → RenamesAll rules.rename token value →
      Becomes rules token (some value)

/-! ## The search for a user's pattern -/

section

variable {pattern token : String}

theorem compiles_iff : compiles pattern = true ↔ ∃ p, compiled? pattern = some p := by
  unfold compiles compiled?
  cases compileUser pattern with
  | valid p => simp
  | invalid warning => simp
  | refused fault message => simp

/-- Whether a compiled pattern is found in a token. -/
def found (token : String) (p : CompiledPattern) : Applied Bool :=
  Option.isSome <$> p.search? token.toList

theorem found_eq_true_iff {p : CompiledPattern} (h : compiled? pattern = some p) :
    found token p = .ok true ↔ Finds pattern token := by
  simp only [found, except_map_eq_ok, Option.isSome_iff_exists, Finds, h, Option.some.injEq]
  constructor
  · rintro ⟨_, hsearch, m, rfl⟩
    exact ⟨p, m, rfl, CompiledPattern.search?_eq_ok_some_iff.1 hsearch⟩
  · rintro ⟨_, m, rfl, hleftmost⟩
    exact ⟨some m, CompiledPattern.search?_eq_ok_some_iff.2 hleftmost, m, rfl⟩

theorem found_eq_false_iff {p : CompiledPattern} (h : compiled? pattern = some p) :
    found token p = .ok false ↔ Misses pattern token := by
  simp only [found, except_map_eq_ok, Option.isSome_eq_false_iff, Option.isNone_iff_eq_none, Misses, h,
    Option.some.injEq, exists_eq_left', exists_eq_right]
  exact CompiledPattern.search?_eq_ok_none_iff

theorem found_eq_error_iff {p : CompiledPattern} {fault : Pattern.BrokenGroup}
    (h : compiled? pattern = some p) : found token p = .error fault ↔ Breaks pattern token := by
  simp only [found, except_map_eq_error, Breaks, h, Option.some.injEq, exists_eq_left']
  exact CompiledPattern.search?_eq_error_iff

/-- A pattern that compiles is found in a token, matches nowhere in it, or the search for it breaks. -/
theorem finds_or_misses_or_breaks (h : compiles pattern = true) (token : String) :
    Finds pattern token ∨ Misses pattern token ∨ Breaks pattern token := by
  obtain ⟨p, hp⟩ := compiles_iff.1 h
  cases hfound : found token p with
  | error fault => exact .inr (.inr ((found_eq_error_iff hp).1 hfound))
  | ok isFound =>
    cases isFound with
    | false => exact .inr (.inl ((found_eq_false_iff hp).1 hfound))
    | true => exact .inl ((found_eq_true_iff hp).1 hfound)

theorem not_misses_of_finds (h : Finds pattern token) : ¬Misses pattern token := by
  intro hmisses
  obtain ⟨p, m, hp, -⟩ := id h
  have htrue := (found_eq_true_iff hp).2 h
  rw [(found_eq_false_iff hp).2 hmisses] at htrue
  cases htrue

end

/-! ## Removal -/

section

variable {token : String} {patterns : List String}

/-- What searching for some patterns in turn comes to. -/
def anyFound (token : String) (patterns : List String) : Applied Bool :=
  (patterns.filterMap compiled?).anyM (found token)

theorem anyFound_cons {pattern : String} {p : CompiledPattern} (hp : compiled? pattern = some p) :
    anyFound token (pattern :: patterns) =
      found token p >>= fun isFound => if isFound then .ok true else anyFound token patterns := by
  rw [anyFound, List.filterMap_cons_some hp, List.anyM_cons]
  refine congrArg (found token p >>= ·) (funext fun isFound => ?_)
  cases isFound with
  | false => rfl
  | true => rfl

theorem anyFound_eq_true_iff (h : ∀ pattern ∈ patterns, compiles pattern = true) :
    anyFound token patterns = .ok true ↔ FindsOne token patterns := by
  induction patterns with
  | nil => exact iff_of_false nofun nofun
  | cons pattern patterns ih =>
    obtain ⟨hpattern, hpatterns⟩ := List.forall_mem_cons.1 h
    obtain ⟨p, hp⟩ := compiles_iff.1 hpattern
    rw [anyFound_cons hp, except_bind_eq_ok]
    constructor
    · rintro ⟨isFound, hfound, hrest⟩
      cases isFound with
      | true => exact .here ((found_eq_true_iff hp).1 hfound)
      | false => exact .later ((found_eq_false_iff hp).1 hfound) ((ih hpatterns).1 hrest)
    · rintro (hfinds | ⟨hmisses, hrest⟩)
      · exact ⟨true, (found_eq_true_iff hp).2 hfinds, rfl⟩
      · exact ⟨false, (found_eq_false_iff hp).2 hmisses, (ih hpatterns).2 hrest⟩

theorem anyFound_eq_false_iff (h : ∀ pattern ∈ patterns, compiles pattern = true) :
    anyFound token patterns = .ok false ↔ ∀ pattern ∈ patterns, Misses pattern token := by
  induction patterns with
  | nil => exact iff_of_true rfl nofun
  | cons pattern patterns ih =>
    obtain ⟨hpattern, hpatterns⟩ := List.forall_mem_cons.1 h
    obtain ⟨p, hp⟩ := compiles_iff.1 hpattern
    rw [anyFound_cons hp, except_bind_eq_ok, List.forall_mem_cons, ← found_eq_false_iff hp, ← ih hpatterns]
    constructor
    · rintro ⟨isFound, hfound, hrest⟩
      cases isFound with
      | true => cases hrest
      | false => exact ⟨hfound, hrest⟩
    · rintro ⟨hfound, hrest⟩
      exact ⟨false, hfound, hrest⟩

variable {rules : ClassRules}

theorem removes_eq (rules : ClassRules) (token : String) : rules.readyEngine.removes token =
    if token ∈ rules.remove then .ok true else anyFound token rules.removeRegex := by
  rw [Engine.removes]
  simp only [List.contains_iff_mem, bind_pure_comp]
  rfl

theorem removes_eq_true_iff (h : rules.AllCompile) :
    rules.readyEngine.removes token = .ok true ↔ Removes rules token := by
  rw [removes_eq, Removes, ← anyFound_eq_true_iff h.1]
  by_cases hlisted : token ∈ rules.remove
  · rw [if_pos hlisted]
    exact iff_of_true rfl (.inl hlisted)
  · rw [if_neg hlisted, or_iff_right hlisted]

theorem removes_eq_false_iff (h : rules.AllCompile) :
    rules.readyEngine.removes token = .ok false ↔ Keeps rules token := by
  rw [removes_eq, Keeps, ← anyFound_eq_false_iff h.1]
  by_cases hlisted : token ∈ rules.remove
  · rw [if_pos hlisted]
    exact iff_of_false nofun fun hkept => hkept.1 hlisted
  · rw [if_neg hlisted, and_iff_right hlisted]

end

/-! ## Renaming -/

/-- A rename as it is made ready, applied to a value; one that is left out changes nothing. -/
def renamed (rule : RenameRule) (value : String) : Applied String :=
  ((ready? rule).map fun r => r.apply value).getD (.ok value)

theorem Rename.apply_pattern_eq_ok_iff {p : CompiledPattern} {target value result : String} :
    (Rename.pattern p target).apply value = .ok result ↔
      p.Misses value.toList ∧ result = value ∨ ∃ m, p.IsLeftmost value.toList m ∧
        result = .ofList (value.toList.take m.span.start ++ expand p m target.toList ++
          value.toList.drop m.span.stop) := by
  have hsame {m : Pattern.Match} (hm : p.IsLeftmost value.toList m) : m.text = value.toList := by
    obtain ⟨trace, -, -, hm⟩ := hm
    rw [hm]
  rw [Rename.apply, except_bind_eq_ok]
  constructor
  · rintro ⟨isMatch, hsearch, h⟩
    cases isMatch with
    | none =>
      obtain rfl := Except.ok.inj h
      exact .inl ⟨CompiledPattern.search?_eq_ok_none_iff.1 hsearch, rfl⟩
    | some m =>
      obtain rfl := Except.ok.inj h
      have hm := CompiledPattern.search?_eq_ok_some_iff.1 hsearch
      refine .inr ⟨m, hm, ?_⟩
      rw [Pattern.Match.before, Pattern.Match.after, hsame hm]
  · rintro (⟨hmisses, rfl⟩ | ⟨m, hm, rfl⟩)
    · exact ⟨none, CompiledPattern.search?_eq_ok_none_iff.2 hmisses, rfl⟩
    · refine ⟨some m, CompiledPattern.search?_eq_ok_some_iff.2 hm, ?_⟩
      rw [← hsame hm]
      rfl

theorem renamed_of_pattern {rule : RenameRule} {p : CompiledPattern} (hsource : rule.source ≠ "")
    (hregex : rule.isRegex = true) (hp : compiled? rule.source = some p) (value : String) :
    renamed rule value = (Rename.pattern p rule.target).apply value := by
  rw [renamed, ready?, if_neg hsource, if_pos hregex, hp]
  rfl

theorem renamed_eq_ok_iff {rule : RenameRule} {value result : String}
    (h : rule.source ≠ "" → rule.isRegex = true → compiles rule.source = true) :
    renamed rule value = .ok result ↔ Renames rule value result := by
  constructor
  · intro hrenamed
    by_cases hsource : rule.source = ""
    · rw [renamed, ready?, if_pos hsource] at hrenamed
      obtain rfl := Except.ok.inj hrenamed
      exact .sourceless hsource
    · cases hregex : rule.isRegex with
      | false =>
        rw [renamed, ready?, if_neg hsource, hregex] at hrenamed
        obtain rfl := Except.ok.inj hrenamed
        exact .literal hsource hregex
      | true =>
        obtain ⟨p, hp⟩ := compiles_iff.1 (h hsource hregex)
        rw [renamed_of_pattern hsource hregex hp, Rename.apply_pattern_eq_ok_iff] at hrenamed
        obtain ⟨hmisses, rfl⟩ | ⟨m, hm, rfl⟩ := hrenamed
        · exact .missed hsource hregex ⟨p, hp, hmisses⟩
        · exact .found hsource hregex hp hm
  · intro hrenames
    cases hrenames with
    | sourceless hsource =>
      rw [renamed, ready?, if_pos hsource]
      rfl
    | literal hsource hregex =>
      rw [renamed, ready?, if_neg hsource, hregex]
      rfl
    | missed hsource hregex hmisses =>
      obtain ⟨p, hp, hmisses⟩ := hmisses
      rw [renamed_of_pattern hsource hregex hp, Rename.apply_pattern_eq_ok_iff]
      exact .inl ⟨hmisses, rfl⟩
    | found hsource hregex hp hm =>
      rw [renamed_of_pattern hsource hregex hp, Rename.apply_pattern_eq_ok_iff]
      exact .inr ⟨_, hm, rfl⟩

theorem foldlM_ready_eq (renames : List RenameRule) (value : String) :
    (renames.filterMap ready?).foldlM (fun current r => r.apply current) value =
      renames.foldlM (fun current rule => renamed rule current) value := by
  induction renames generalizing value with
  | nil => rfl
  | cons rule renames ih =>
    rw [List.foldlM_cons, renamed]
    cases hready : ready? rule with
    | none =>
      rw [List.filterMap_cons_none hready, ih]
      rfl
    | some r =>
      rw [List.filterMap_cons_some hready, List.foldlM_cons]
      exact congrArg (r.apply value >>= ·) (funext ih)

theorem foldlM_renamed_eq_ok_iff {renames : List RenameRule} {value result : String}
    (h : ∀ rule ∈ renames, rule.source ≠ "" → rule.isRegex = true → compiles rule.source = true) :
    renames.foldlM (fun current rule => renamed rule current) value = .ok result ↔
      RenamesAll renames value result := by
  induction renames generalizing value with
  | nil =>
    constructor
    · intro hvalue
      obtain rfl := Except.ok.inj hvalue
      exact .nil value
    · rintro ⟨⟩
      rfl
  | cons rule renames ih =>
    obtain ⟨hrule, hrenames⟩ := List.forall_mem_cons.1 h
    rw [List.foldlM_cons, except_bind_eq_ok]
    constructor
    · rintro ⟨middle, hmiddle, hresult⟩
      exact .cons ((renamed_eq_ok_iff hrule).1 hmiddle) ((ih hrenames).1 hresult)
    · rintro (_ | ⟨hmiddle, hresult⟩)
      exact ⟨_, (renamed_eq_ok_iff hrule).2 hmiddle, (ih hrenames).2 hresult⟩

theorem rename_eq_ok_iff {rules : ClassRules} (h : rules.AllCompile) {token value : String} :
    rules.readyEngine.rename token = .ok value ↔ RenamesAll rules.rename token value := by
  rw [← foldlM_renamed_eq_ok_iff h.2, ← foldlM_ready_eq]
  rfl

/-! ## One token -/

/-- What an engine makes of a token: nothing if it is removed. -/
def Engine.outcome (e : Engine) (token : String) : Applied (Option String) := do
  if ← e.removes token then return none
  return some (← e.rename token)

theorem Engine.outcome_eq_ok_iff {e : Engine} {token : String} {value? : Option String} :
    e.outcome token = .ok value? ↔
      e.removes token = .ok true ∧ value? = none ∨
        e.removes token = .ok false ∧ ∃ value, e.rename token = .ok value ∧ value? = some value := by
  rw [Engine.outcome, except_bind_eq_ok]
  constructor
  · rintro ⟨isRemoved, hremoves, hrest⟩
    cases isRemoved with
    | true =>
      obtain rfl := Except.ok.inj hrest
      exact .inl ⟨hremoves, rfl⟩
    | false =>
      obtain ⟨value, hvalue, hrest⟩ := except_bind_eq_ok.1 hrest
      obtain rfl := Except.ok.inj hrest
      exact .inr ⟨hremoves, value, hvalue, rfl⟩
  · rintro (⟨hremoves, rfl⟩ | ⟨hremoves, value, hvalue, rfl⟩)
    · exact ⟨true, hremoves, rfl⟩
    · exact ⟨false, hremoves, except_bind_eq_ok.2 ⟨value, hvalue, rfl⟩⟩

/-- The engine makes of a token what its rules make of it. -/
theorem outcome_eq_ok_iff {rules : ClassRules} (h : rules.AllCompile) {token : String}
    {value? : Option String} :
    rules.readyEngine.outcome token = .ok value? ↔ Becomes rules token value? := by
  rw [Engine.outcome_eq_ok_iff, removes_eq_true_iff h, removes_eq_false_iff h]
  simp only [rename_eq_ok_iff h]
  constructor
  · rintro (⟨hremoves, rfl⟩ | ⟨hkeeps, value, hrenames, rfl⟩)
    · exact .removed hremoves
    · exact .renamed hkeeps hrenames
  · rintro (hremoves | ⟨hkeeps, hrenames⟩)
    · exact .inl ⟨hremoves, rfl⟩
    · exact .inr ⟨hkeeps, _, hrenames, rfl⟩

end MarkupCleaner.ClassRules
