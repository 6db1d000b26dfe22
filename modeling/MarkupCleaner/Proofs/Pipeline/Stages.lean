import MarkupCleaner.Pipeline
import MarkupCleaner.Proofs.Data.Except
import MarkupCleaner.Proofs.Data.Logged

/-!
# The stages without the log

What the stages of the pipeline come to does not depend on what they log: the tree that is written comes
from parsing, cleaning up, fixing images and applying class rules, and a failure comes from the first of
these steps that fails.
-/

namespace MarkupCleaner.Pipeline

/-- A tree after the class rules. -/
def ruledTree (rules : ClassRules) (tree : Fragment) : Except PipelineError Fragment := do
  let engine ← (ClassRules.engine rules).1.mapError fun refusal => ⟨.classRules, .refusedPattern refusal⟩
  (engine.applyBelow tree).mapError fun fault => ⟨.classRules, .brokenGroup fault⟩

/-- The tree that is written, or the failure of a stage that comes before. -/
def writtenTree (options : PipelineOptions) (text : String) : Except PipelineError Fragment := do
  let tree ← (parseFragment text).mapError fun error => ⟨.parse, .unparsable error⟩
  let fixed ← (replaceImages options.images (cleanup options.cleanup tree)).mapError
    fun limit => ⟨.images, .tooManyDigits limit⟩
  ruledTree options.classRules fixed

/-- A tree is written if every stage succeeds. -/
theorem writtenTree_eq_ok_iff {options : PipelineOptions} {text : String} {t : Fragment} :
    writtenTree options text = .ok t ↔ ∃ tree, parseFragment text = .ok tree ∧
      ∃ fixed, replaceImages options.images (cleanup options.cleanup tree) = .ok fixed ∧
        ∃ e, (ClassRules.engine options.classRules).1 = .ok e ∧ e.applyBelow fixed = .ok t := by
  unfold writtenTree ruledTree
  simp only [except_bind_eq_ok, except_mapError_eq_ok]

/-! ## Stage by stage -/

theorem resultsIn_record (log : Log) : ResultsIn (record log) (.ok ()) := ⟨log, .record log⟩

theorem resultsIn_stage {α : Type} (s : Stage) (outcome : Except StageFault α) :
    ResultsIn (stage s outcome) (outcome.mapError fun fault => ⟨s, fault⟩) := by
  cases outcome with
  | ok a => exact .pure a
  | error fault =>
    have hthrow : ResultsIn (throw ⟨s, fault⟩ : Staged α) (.error ⟨s, fault⟩) := ⟨[], .throw _⟩
    exact (resultsIn_record [⟨.error, PipelineError.summary ⟨s, fault⟩⟩]).bind fun _ => hthrow

/-- A stage whose failures all are of one kind. -/
theorem resultsIn_stage_mapError {ε α : Type} (s : Stage) (kind : ε → StageFault) (outcome : Except ε α) :
    ResultsIn (stage s (outcome.mapError kind)) (outcome.mapError fun error => ⟨s, kind error⟩) := by
  have hstage := resultsIn_stage s (outcome.mapError kind)
  have hfault : (outcome.mapError kind).mapError (PipelineError.mk s) =
      outcome.mapError fun error => ⟨s, kind error⟩ := by
    cases outcome with
    | ok a => rfl
    | error error => rfl
  rw [← hfault]
  exact hstage

theorem resultsIn_parseText (text : String) : ResultsIn (parseText text)
    ((parseFragment text).mapError fun error => ⟨.parse, .unparsable error⟩) := by
  have hparse := (resultsIn_stage_mapError .parse .unparsable (parse text)).bind fun document =>
    (resultsIn_record (document.ignored.map ignoredEntry)).bind fun _ => .pure document.fragment
  have hfragment : ((parse text).mapError (fun error => ⟨.parse, .unparsable error⟩) >>= fun document =>
      (.ok () : Except PipelineError Unit) >>= fun _ => .ok document.fragment) =
        (parseFragment text).mapError fun error => ⟨.parse, .unparsable error⟩ := by
    unfold parseFragment
    cases parse text with
    | error error => rfl
    | ok document => rfl
  rw [← hfragment]
  exact hparse

theorem resultsIn_cleanupTree (options : CleanupOptions) (tree : Fragment) :
    ResultsIn (cleanupTree options tree) (.ok (cleanup options tree)) :=
  (resultsIn_record _).bind fun _ => resultsIn_stage .cleanup (.ok (cleanup options tree))

theorem resultsIn_fixImages (options : ImageOptions) (tree : Fragment) : ResultsIn (fixImages options tree)
    ((replaceImages options tree).mapError fun limit => ⟨.images, .tooManyDigits limit⟩) :=
  resultsIn_stage_mapError .images .tooManyDigits _

theorem resultsIn_applyRules (rules : ClassRules) (tree : Fragment) :
    ResultsIn (applyRules rules tree) (ruledTree rules tree) := by
  have hengine := resultsIn_stage_mapError .classRules .refusedPattern (ClassRules.engine rules).1
  exact (resultsIn_record (ClassRules.engine rules).2).bind fun _ => hengine.bind fun engine =>
    resultsIn_stage_mapError .classRules .brokenGroup (engine.applyBelow tree)

theorem resultsIn_stages (options : PipelineOptions) (text : String) :
    ResultsIn (stages options text) (render options <$> writtenTree options text) := by
  have hstages := (resultsIn_parseText text).bind fun tree =>
    (resultsIn_cleanupTree options.cleanup tree).bind fun clean =>
      (resultsIn_fixImages options.images clean).bind fun fixed =>
        (resultsIn_applyRules options.classRules fixed).bind fun ruled =>
          (resultsIn_stage .write (.ok (render options ruled))).bind fun output =>
            (resultsIn_record [outputEntry options.output output]).bind fun _ => .pure output
  -- the results after a step that cannot fail are those of its value by computation
  unfold writtenTree
  simp only [map_bind]
  exact hstages

/-- What comes out before any formatting is the written form of the tree. -/
theorem unformatted_fst (options : PipelineOptions) (text : String) :
    (unformatted options text).1 = render options <$> writtenTree options text :=
  (resultsIn_stages options text).run_fst []

end MarkupCleaner.Pipeline
