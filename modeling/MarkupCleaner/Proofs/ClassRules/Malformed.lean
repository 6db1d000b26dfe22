import MarkupCleaner.ClassRules.Engine
import MarkupCleaner.Proofs.Data.Logged
import Mathlib.Data.List.Basic
import Mathlib.Data.List.TakeWhile

/-!
# Malformed patterns

Rules with malformed patterns give the engine that the rules without these entries give, and one warning
for each of them, in the order in which patterns are compiled. That holds up to the first pattern which is
not malformed but breaks a limit of the pattern language: such a pattern is no warning, it stops the
construction. So an engine comes out exactly if no pattern breaks a limit.
-/

namespace MarkupCleaner

/-- The pattern of a rename that is compiled, if there is one. -/
def RenameRule.pattern? (rule : RenameRule) : Option String :=
  if rule.source ≠ "" && rule.isRegex then some rule.source else none

theorem RenameRule.pattern?_eq_some_iff {rule : RenameRule} {pattern : String} :
    rule.pattern? = some pattern ↔ rule.source ≠ "" ∧ rule.isRegex = true ∧ rule.source = pattern := by
  unfold RenameRule.pattern?
  by_cases hsource : rule.source = ""
  · simp [hsource]
  · cases hregex : rule.isRegex <;> simp [hsource]

namespace ClassRules

/-- The pattern as it is compiled, if it is well formed and within the limits. -/
def compiled? (pattern : String) : Option CompiledPattern :=
  match compileUser pattern with
  | .valid p => some p
  | .invalid _ => none
  | .refused _ _ => none

/-- The warning about a pattern that is malformed. -/
def warning? (pattern : String) : Option Entry :=
  match compileUser pattern with
  | .valid _ => none
  | .invalid warning => some warning
  | .refused _ _ => none

/-- The refusal of a pattern that breaks a limit of the pattern language. -/
def refusal? (pattern : String) : Option Refusal :=
  match compileUser pattern with
  | .valid _ => none
  | .invalid _ => none
  | .refused fault message => some ⟨fault, message⟩

/-- Whether a pattern is not malformed. -/
def isWellFormed (pattern : String) : Bool := (warning? pattern).isNone

/-- The patterns of some rules in the order in which they are compiled: those for removal, then those of
    renames with a source. -/
def patterns (rules : ClassRules) : List String :=
  rules.removeRegex ++ rules.rename.filterMap RenameRule.pattern?

/-- The same rules without the entries whose pattern is malformed. -/
def withoutMalformed (rules : ClassRules) : ClassRules :=
  { rules with
    removeRegex := rules.removeRegex.filter isWellFormed
    rename := rules.rename.filter fun rule => rule.pattern?.all isWellFormed }

/-- The warnings up to the first pattern that breaks a limit, one for each malformed pattern. -/
def warnings (patterns : List String) : Log :=
  (patterns.takeWhile fun pattern => (refusal? pattern).isNone).filterMap warning?

/-- A value, unless some pattern breaks a limit. -/
def unlessRefused {α : Type} (patterns : List String) (a : α) : Except Refusal α :=
  match patterns.findSome? refusal? with
  | some refusal => .error refusal
  | none => .ok a

/-! ## Up to the first refusal -/

section

variable {α : Type} {pattern : String} {refusal : Refusal}

theorem unlessRefused_cons_of_refusal (h : refusal? pattern = some refusal) (patterns : List String)
    (a : α) : unlessRefused (pattern :: patterns) a = .error refusal := by
  rw [unlessRefused, List.findSome?_cons, h]

theorem unlessRefused_cons (h : refusal? pattern = none) (patterns : List String) (a : α) :
    unlessRefused (pattern :: patterns) a = unlessRefused patterns a := by
  rw [unlessRefused, List.findSome?_cons, h]
  rfl

theorem warnings_cons_of_refusal (h : refusal? pattern = some refusal) (patterns : List String) :
    warnings (pattern :: patterns) = [] := by
  rw [warnings, List.takeWhile_cons_of_neg (by rw [h]; simp)]
  rfl

theorem warnings_cons (h : refusal? pattern = none) (patterns : List String) :
    warnings (pattern :: patterns) = (warning? pattern).toList ++ warnings patterns := by
  rw [warnings, List.takeWhile_cons_of_pos (by rw [h]; rfl), List.filterMap_cons, warnings]
  cases warning? pattern with
  | none => rfl
  | some warning => rfl

/-- Nothing comes after the first refusal. -/
theorem warnings_append_of_refusal {ps : List String} (h : ps.findSome? refusal? = some refusal)
    (qs : List String) : warnings (ps ++ qs) = warnings ps := by
  induction ps with
  | nil => cases h
  | cons p ps ih =>
    rw [List.cons_append]
    cases hp : refusal? p with
    | some first => rw [warnings_cons_of_refusal hp, warnings_cons_of_refusal hp]
    | none =>
      rw [List.findSome?_cons, hp] at h
      rw [warnings_cons hp, warnings_cons hp, ih h]

theorem warnings_eq_filterMap {ps : List String} (h : ps.findSome? refusal? = none) :
    warnings ps = ps.filterMap warning? := by
  have hall : ps.takeWhile (fun p => (refusal? p).isNone) = ps := by
    refine List.takeWhile_eq_self_iff.2 ?_
    intro p hp
    rw [List.findSome?_eq_none_iff.1 h p hp]
    rfl
  rw [warnings, hall]

theorem warnings_append {ps : List String} (h : ps.findSome? refusal? = none) (qs : List String) :
    warnings (ps ++ qs) = warnings ps ++ warnings qs := by
  induction ps with
  | nil => rfl
  | cons p ps ih =>
    rw [List.findSome?_cons] at h
    cases hp : refusal? p with
    | some first =>
      rw [hp] at h
      cases h
    | none =>
      rw [hp] at h
      rw [List.cons_append, warnings_cons hp, warnings_cons hp, ih h, List.append_assoc]

theorem map_unlessRefused {β : Type} (f : α → β) (patterns : List String) (a : α) :
    f <$> unlessRefused patterns a = unlessRefused patterns (f a) := by
  unfold unlessRefused
  cases patterns.findSome? refusal? with
  | none => rfl
  | some refusal => rfl

end

/-! ## One entry -/

section

variable {pattern : String} {refusal : Refusal}

/-- A pattern that breaks a limit is not malformed. -/
theorem isWellFormed_of_refusal (h : refusal? pattern = some refusal) : isWellFormed pattern = true := by
  unfold refusal? at h
  unfold isWellFormed warning?
  cases hcompile : compileUser pattern with
  | valid p => rfl
  | invalid warning =>
    rw [hcompile] at h
    cases h
  | refused fault message => rfl

theorem compiled?_of_malformed (h : isWellFormed pattern = false) : compiled? pattern = none := by
  unfold isWellFormed warning? at h
  unfold compiled?
  cases hcompile : compileUser pattern with
  | valid p =>
    rw [hcompile] at h
    cases h
  | invalid warning => rfl
  | refused fault message => rfl

theorem comesTo_buildPattern_of_refusal (h : refusal? pattern = some refusal) :
    ComesTo (buildPattern pattern) (.error refusal) [] := by
  unfold refusal? at h
  unfold buildPattern
  cases hcompile : compileUser pattern with
  | valid p =>
    rw [hcompile] at h
    cases h
  | invalid warning =>
    rw [hcompile] at h
    cases h
  | refused fault message =>
    rw [hcompile] at h
    obtain rfl := Option.some.inj h
    exact .throw _

theorem comesTo_buildPattern (h : refusal? pattern = none) :
    ComesTo (buildPattern pattern) (.ok (compiled? pattern)) (warning? pattern).toList := by
  unfold refusal? at h
  unfold buildPattern compiled? warning?
  cases hcompile : compileUser pattern with
  | valid p => exact .pure _
  | invalid warning => exact .bind (.record [warning]) (.pure none)
  | refused fault message =>
    rw [hcompile] at h
    cases h

end

/-- The rename that is ready to be applied, if its entry is not left out. -/
def ready? (rule : RenameRule) : Option Rename :=
  if rule.source = "" then none
  else if rule.isRegex then (compiled? rule.source).map fun p => .pattern p rule.target
  else some (.literal rule.source rule.target)

/-- How entries are made ready: an entry with a pattern that breaks a limit stops everything, one with a
    malformed pattern is left out with a warning, and no other entry is logged. -/
structure Builds {α β : Type} (build : α → Building (Option β)) (pattern? : α → Option String)
    (ready? : α → Option β) : Prop where
  refused : ∀ a refusal, (pattern? a).bind refusal? = some refusal → ComesTo (build a) (.error refusal) []
  built : ∀ a, (pattern? a).bind refusal? = none →
    ComesTo (build a) (.ok (ready? a)) ((pattern? a).bind warning?).toList

theorem builds_buildPattern : Builds buildPattern some compiled? where
  refused _ _ h := comesTo_buildPattern_of_refusal h
  built _ h := comesTo_buildPattern h

theorem ready?_of_pattern {rule : RenameRule} {pattern : String} (h : rule.pattern? = some pattern) :
    ready? rule = (compiled? pattern).map fun p => .pattern p rule.target := by
  obtain ⟨hsource, hregex, rfl⟩ := RenameRule.pattern?_eq_some_iff.1 h
  rw [ready?, if_neg hsource, if_pos hregex]

theorem buildRename_eq (rule : RenameRule) : buildRename rule =
    match rule.pattern? with
    | some pattern => (Option.map fun p => .pattern p rule.target) <$> buildPattern pattern
    | none => pure (ready? rule) := by
  unfold buildRename RenameRule.pattern? ready?
  by_cases hsource : rule.source = ""
  · simp [hsource]
  · cases hregex : rule.isRegex <;> simp [hsource]

theorem builds_buildRename : Builds buildRename RenameRule.pattern? ready? where
  refused rule refusal h := by
    obtain ⟨pattern, hpattern, hrefusal⟩ := Option.bind_eq_some_iff.1 h
    rw [buildRename_eq, hpattern]
    exact (comesTo_buildPattern_of_refusal hrefusal).map _
  built rule h := by
    rw [buildRename_eq]
    cases hpattern : rule.pattern? with
    | none => exact .pure _
    | some pattern =>
      rw [hpattern, Option.bind_some] at h
      rw [ready?_of_pattern hpattern]
      exact (comesTo_buildPattern h).map _

/-! ## All entries -/

theorem filterMap_cons_eq_append {α β : Type} (f : α → Option β) (a : α) (as : List α) :
    (a :: as).filterMap f = (f a).toList ++ as.filterMap f := by
  rw [List.filterMap_cons]
  cases f a with
  | none => rfl
  | some b => rfl

/-- Entries are made ready one after the other, up to the first refusal. -/
theorem Builds.comesTo_all {α β : Type} {build : α → Building (Option β)} {pattern? : α → Option String}
    {ready? : α → Option β} (h : Builds build pattern? ready?) {all : List α → Building (List β)}
    (hnil : all [] = pure []) (hcons : ∀ a as, all (a :: as) = do
      let first ← build a
      (first.toList ++ ·) <$> all as) (as : List α) :
    ComesTo (all as) (unlessRefused (as.filterMap pattern?) (as.filterMap ready?))
      (warnings (as.filterMap pattern?)) := by
  induction as with
  | nil =>
    rw [hnil]
    exact .pure []
  | cons a as ih =>
    rw [hcons]
    cases hrefusal : (pattern? a).bind refusal? with
    | some refusal =>
      -- what comes after the first refusal adds neither an entry nor a warning
      obtain ⟨pattern, hpattern, hrefusal'⟩ := Option.bind_eq_some_iff.1 hrefusal
      rw [List.filterMap_cons_some hpattern, unlessRefused_cons_of_refusal hrefusal',
        warnings_cons_of_refusal hrefusal']
      exact .bind_error (h.refused a refusal hrefusal) _
    | none =>
      -- the rest can still be refused, so its result is mapped whether it is an error or not
      have hrest := ih.map ((ready? a).toList ++ ·)
      rw [map_unlessRefused, ← filterMap_cons_eq_append] at hrest
      cases hpattern : pattern? a with
      | none =>
        have hfirst := h.built a hrefusal
        rw [hpattern] at hfirst
        rw [List.filterMap_cons_none hpattern]
        exact hfirst.bind hrest
      | some pattern =>
        have hfirst := h.built a hrefusal
        rw [hpattern, Option.bind_some] at hfirst hrefusal
        rw [List.filterMap_cons_some hpattern, unlessRefused_cons hrefusal, warnings_cons hrefusal]
        exact hfirst.bind hrest

theorem comesTo_buildPatterns (patterns : List String) : ComesTo (buildPatterns patterns)
    (unlessRefused patterns (patterns.filterMap compiled?)) (warnings patterns) := by
  have h : ComesTo (buildPatterns patterns) _ _ :=
    builds_buildPattern.comesTo_all rfl (fun _ _ => rfl) patterns
  rwa [List.filterMap_some] at h

theorem comesTo_buildRenames (renames : List RenameRule) : ComesTo (buildRenames renames)
    (unlessRefused (renames.filterMap RenameRule.pattern?) (renames.filterMap ready?))
    (warnings (renames.filterMap RenameRule.pattern?)) :=
  builds_buildRename.comesTo_all rfl (fun _ _ => rfl) renames

/-- The engine with every entry that compiles. -/
def readyEngine (rules : ClassRules) : Engine where
  remove := rules.remove
  removePatterns := rules.removeRegex.filterMap compiled?
  renames := rules.rename.filterMap ready?
  lead := rules.lead

/-- Making rules ready comes to the engine with every entry that compiles, unless a pattern breaks a
    limit, and the malformed patterns before the first such pattern are logged. -/
theorem comesTo_buildEngine (rules : ClassRules) : ComesTo (buildEngine rules)
    (unlessRefused rules.patterns rules.readyEngine) (warnings rules.patterns) := by
  have hpatterns := comesTo_buildPatterns rules.removeRegex
  have hrenames := comesTo_buildRenames rules.rename
  unfold buildEngine patterns
  cases hrefusal : rules.removeRegex.findSome? refusal? with
  | some refusal =>
    rw [unlessRefused, hrefusal] at hpatterns
    rw [unlessRefused, List.findSome?_append, hrefusal, warnings_append_of_refusal hrefusal]
    exact hpatterns.bind_error _
  | none =>
    rw [unlessRefused, hrefusal] at hpatterns
    rw [unlessRefused, List.findSome?_append, hrefusal, Option.none_or, warnings_append hrefusal]
    refine hpatterns.bind ?_
    have h := hrenames.map fun renames => { rules.readyEngine with renames }
    rw [map_unlessRefused] at h
    exact h

theorem engine_eq (rules : ClassRules) :
    engine rules = (unlessRefused rules.patterns rules.readyEngine, warnings rules.patterns) :=
  comesTo_buildEngine rules []

/-! ## Without the malformed patterns -/

theorem isWellFormed_iff {pattern : String} : isWellFormed pattern = true ↔ warning? pattern = none :=
  Option.isNone_iff_eq_none

theorem patterns_withoutMalformed (rules : ClassRules) :
    rules.withoutMalformed.patterns = rules.patterns.filter isWellFormed := by
  unfold patterns withoutMalformed
  rw [List.filter_append, List.filterMap_filter, List.filter_filterMap]
  congr 1
  refine List.filterMap_congr fun rule _ => ?_
  cases rule.pattern? with
  | none => rfl
  | some pattern => rfl

theorem readyEngine_withoutMalformed (rules : ClassRules) :
    rules.withoutMalformed.readyEngine = rules.readyEngine := by
  have hpatterns : (rules.removeRegex.filter isWellFormed).filterMap compiled? =
      rules.removeRegex.filterMap compiled? := by
    rw [List.filterMap_filter]
    refine List.filterMap_congr fun pattern _ => ?_
    cases hwell : isWellFormed pattern with
    | true => rfl
    | false => exact (compiled?_of_malformed hwell).symm
  have hrenames : (rules.rename.filter fun rule => rule.pattern?.all isWellFormed).filterMap ready? =
      rules.rename.filterMap ready? := by
    rw [List.filterMap_filter]
    refine List.filterMap_congr fun rule _ => ?_
    cases hpattern : rule.pattern? with
    | none => rfl
    | some pattern =>
      rw [Option.all_some]
      cases hwell : isWellFormed pattern with
      | true => rfl
      | false =>
        rw [ready?_of_pattern hpattern, compiled?_of_malformed hwell]
        rfl
  rw [readyEngine, readyEngine, withoutMalformed, hpatterns, hrenames]

/-- A malformed pattern is never refused. -/
theorem unlessRefused_filter_isWellFormed {α : Type} (ps : List String) (a : α) :
    unlessRefused (ps.filter isWellFormed) a = unlessRefused ps a := by
  induction ps with
  | nil => rfl
  | cons p ps ih =>
    cases hp : refusal? p with
    | some refusal =>
      rw [List.filter_cons_of_pos (isWellFormed_of_refusal hp), unlessRefused_cons_of_refusal hp,
        unlessRefused_cons_of_refusal hp]
    | none =>
      rw [unlessRefused_cons hp, ← ih, List.filter_cons]
      split
      · exact unlessRefused_cons hp _ a
      · rfl

theorem warnings_filter_isWellFormed (ps : List String) : warnings (ps.filter isWellFormed) = [] := by
  refine List.filterMap_eq_nil_iff.2 ?_
  intro p hp
  have hmem := (List.takeWhile_sublist _).subset hp
  exact isWellFormed_iff.1 (List.mem_filter.1 hmem).2

/-- Malformed patterns fail open. The rules without the entries whose pattern is malformed give the same
    engine, or the same refusal, and nothing is logged for them; for all rules one warning is logged for
    each malformed pattern, in the order in which patterns are compiled, up to the first pattern that breaks
    a limit. An engine comes out exactly if no pattern breaks a limit, and if one does, the first such
    pattern is what stops the construction, which then is no question of being malformed. -/
theorem engine_withoutMalformed (rules : ClassRules) :
    engine rules.withoutMalformed = ((engine rules).1, []) ∧
      (engine rules).2 = warnings rules.patterns ∧
      ((∃ e, (engine rules).1 = .ok e) ↔ ∀ pattern ∈ rules.patterns, refusal? pattern = none) ∧
      ((∀ pattern ∈ rules.patterns, refusal? pattern = none) →
        (engine rules).2 = rules.patterns.filterMap warning?) ∧
      ∀ refusal, (engine rules).1 = .error refusal ↔ rules.patterns.findSome? refusal? = some refusal := by
  rw [engine_eq, engine_eq, patterns_withoutMalformed, readyEngine_withoutMalformed,
    unlessRefused_filter_isWellFormed, warnings_filter_isWellFormed, ← List.findSome?_eq_none_iff]
  refine ⟨rfl, rfl, ?_, warnings_eq_filterMap, fun refusal => ?_⟩
  · unfold unlessRefused
    cases rules.patterns.findSome? refusal? with
    | some refusal => exact iff_of_false (fun ⟨e, he⟩ => nomatch he) nofun
    | none => exact iff_of_true ⟨_, rfl⟩ rfl
  · unfold unlessRefused
    cases rules.patterns.findSome? refusal? with
    | some first => simp
    | none => exact iff_of_false nofun nofun

/-- Two malformed patterns among others: both are logged, and the engine is that of the other entries. A
    source that is no pattern may be anything. -/
theorem engine_withoutMalformed_brackets :
    let rules : ClassRules :=
      { removeRegex := ["^a", "("],
        rename := [{ source := "[", target := "x", isRegex := true }, { source := "(", target := "y" }] }
    rules.withoutMalformed = { removeRegex := ["^a"], rename := [{ source := "(", target := "y" }] } ∧
      (∃ e, (engine rules).1 = .ok e) ∧ engine rules.withoutMalformed = ((engine rules).1, []) ∧
      (engine rules).2 =
        [⟨.warning, "Ignoring invalid class pattern '(': missing ), unterminated subpattern at position 0"⟩,
         ⟨.warning, "Ignoring invalid class pattern '[': unterminated character set at position 0"⟩] := by
  intro rules
  have hrefusal : ∀ pattern ∈ rules.patterns, refusal? pattern = none := by decide +kernel
  obtain ⟨hsame, -, hok, hlog, -⟩ := engine_withoutMalformed rules
  refine ⟨by decide +kernel, hok.2 hrefusal, hsame, ?_⟩
  rw [hlog hrefusal]
  decide +kernel

/-- A bound of a repetition that is too large: the pattern is no warning, there is no engine. -/
theorem engine_refuses_repetition :
    let rules : ClassRules := { removeRegex := ["a\x7b4294967295\x7d"] }
    engine rules = (.error ⟨.repetitionTooLarge, "the repetition number is too large"⟩, []) := by
  decide +kernel

end ClassRules
end MarkupCleaner
