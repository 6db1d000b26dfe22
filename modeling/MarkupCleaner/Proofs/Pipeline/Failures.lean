import MarkupCleaner.Proofs.ClassRules.Sweep
import MarkupCleaner.Proofs.Image.Icons
import MarkupCleaner.Proofs.Pipeline.Stages

/-!
# How a run ends

Three stages can fail. Parsing fails if the text is refused, fixing images fails if the size of an icon
cannot be read, and the class rules fail if there is no engine for them or if a search stops at a broken
group. The first of these decides, and the formatter is then not started. A run that does not fail gives
the written tree, or what a formatter has made of it.
-/

namespace MarkupCleaner

/-- What a formatter leaves in place of the code: the text that it wrote, if it succeeded and wrote more
    than white space. -/
def Formatter.Outcome.layout? : Formatter.Outcome → Option String
  | .finished layout => if Text.isBlank layout then none else some layout
  | _ => none

theorem Formatter.settle_fst (f : Formatter) (target code : String) (outcome : Formatter.Outcome) :
    (f.settle target code outcome).1 = outcome.layout?.getD code := by
  cases outcome with
  | finished layout =>
    unfold Formatter.settle Formatter.refusal? Formatter.Outcome.layout?
    by_cases hblank : Text.isBlank layout
    · simp [hblank]
    · simp [hblank]
  | _ => rfl

namespace Pipeline

open Node

/-- The computation fails during a stage. -/
def FailsDuring {α : Type} (result : Except PipelineError α) (s : Stage) : Prop :=
  ∃ fault, result = .error ⟨s, fault⟩

/-! ## One stage after the other -/

section

variable {α β ε : Type} {s : Stage}

theorem failsDuring_map_iff {f : α → β} {result : Except PipelineError α} :
    FailsDuring (f <$> result) s ↔ FailsDuring result s := by
  unfold FailsDuring
  cases result with
  | error e => simp [Functor.map, Except.map]
  | ok a => simp [Functor.map, Except.map]

theorem failsDuring_mapError_iff {step : Except ε α} {s' : Stage} {kind : ε → StageFault} :
    FailsDuring (step.mapError fun error => ⟨s', kind error⟩) s ↔ s' = s ∧ ∃ error, step = .error error := by
  unfold FailsDuring
  cases step with
  | error error => simp [Except.mapError]
  | ok a => simp [Except.mapError]

/-- A step fails during its own stage, and what comes next only matters if it does not fail. -/
theorem failsDuring_bind_iff {step : Except ε α} {s' : Stage} {kind : ε → StageFault}
    {next : α → Except PipelineError β} :
    FailsDuring ((step.mapError fun error => ⟨s', kind error⟩) >>= next) s ↔
      (s' = s ∧ ∃ error, step = .error error) ∨ ∃ a, step = .ok a ∧ FailsDuring (next a) s := by
  unfold FailsDuring
  cases step with
  | error error => simp [Except.mapError, bind, Except.bind]
  | ok a => simp [Except.mapError, bind, Except.bind]

/-- The class rules fail if there is no engine or if the sweep fails. -/
theorem failsDuring_ruledTree_iff {rules : ClassRules} {tree : Fragment} :
    FailsDuring (ruledTree rules tree) s ↔ s = .classRules ∧
      ((∃ refusal, (ClassRules.engine rules).1 = .error refusal) ∨
        ∃ e, (ClassRules.engine rules).1 = .ok e ∧ ∃ n ∈ nodesAll tree, ¬e.Accepts n) := by
  have hsweep : ∀ e : ClassRules.Engine,
      (∃ fault, e.applyBelow tree = .error fault) ↔ ∃ n ∈ nodesAll tree, ¬e.Accepts n := by
    intro e
    rw [exists_eq_error_iff, ClassRules.Engine.exists_applyBelow_iff]
    push Not
    rfl
  unfold ruledTree
  rw [failsDuring_bind_iff]
  simp only [failsDuring_mapError_iff, hsweep]
  constructor
  · rintro (⟨rfl, hrefusal⟩ | ⟨e, he, rfl, hbroken⟩)
    · exact ⟨rfl, Or.inl hrefusal⟩
    · exact ⟨rfl, Or.inr ⟨e, he, hbroken⟩⟩
  · rintro ⟨rfl, hrefusal | ⟨e, he, hbroken⟩⟩
    · exact Or.inl ⟨rfl, hrefusal⟩
    · exact Or.inr ⟨e, he, rfl, hbroken⟩

theorem failsDuring_writtenTree_iff {options : PipelineOptions} {text : String} :
    FailsDuring (writtenTree options text) s ↔
      (s = .parse ∧ ∃ error, parseFragment text = .error error) ∨
      ∃ tree, parseFragment text = .ok tree ∧
        ((s = .images ∧ ∃ limit,
            replaceImages options.images (cleanup options.cleanup tree) = .error limit) ∨
          ∃ fixed, replaceImages options.images (cleanup options.cleanup tree) = .ok fixed ∧
            FailsDuring (ruledTree options.classRules fixed) s) := by
  unfold writtenTree
  simp only [failsDuring_bind_iff, eq_comm (a := s)]

end

/-! ## The whole run -/

/-- What comes out of a run is the tree in its written form, unless the formatter leaves something in its
    place. -/
theorem run_output (f : Formatter) (outcome : Formatter.Outcome) (options : PipelineOptions)
    (text : String) : (run f outcome options text).output =
      (fun tree => ((if options.format then outcome.layout? else none).getD (render options tree))) <$>
        writtenTree options text := by
  have hrun : (run f outcome options text).output =
      (conclude f outcome options (unformatted options text).1 (unformatted options text).2).output := rfl
  rw [hrun, unformatted_fst]
  cases writtenTree options text with
  | error e => rfl
  | ok tree =>
    unfold conclude formatterCall?
    cases options.format with
    | false => rfl
    | true => exact congrArg Except.ok (f.settle_fst options.output.name (render options tree) outcome)

/-- Without formatting, what comes out of a run is a tree in its written form. -/
theorem exists_writtenTree_of_run {f : Formatter} {outcome : Formatter.Outcome} {options : PipelineOptions}
    (hformat : options.format = false) {text output : String}
    (h : (run f outcome options text).output = .ok output) :
    ∃ t, writtenTree options text = .ok t ∧ output = render options t := by
  rw [run_output, hformat] at h
  cases htree : writtenTree options text with
  | error e =>
    rw [htree] at h
    cases h
  | ok t =>
    rw [htree] at h
    exact ⟨t, rfl, (Except.ok.inj h).symm⟩

theorem run_formatted_of_failsDuring {f : Formatter} {outcome : Formatter.Outcome}
    {options : PipelineOptions} {text : String} {s : Stage} (h : FailsDuring (writtenTree options text) s) :
    (run f outcome options text).formatted = none := by
  obtain ⟨fault, hfault⟩ := h
  have hrun : (run f outcome options text).formatted =
      (conclude f outcome options (unformatted options text).1 (unformatted options text).2).formatted := rfl
  rw [hrun, unformatted_fst, hfault]
  rfl

/-- How a run for a text ends: which stage fails, and what comes out if none does. An engine for the class
    rules is made in any case, and it is applied to the tree whose images are fixed. -/
structure EndsAsStaged (options : PipelineOptions) (outcome : Formatter.Outcome) (text : String)
    (r : Result) : Prop where
  parse : FailsDuring r.output .parse ↔ ∃ error, parseFragment text = .error error
  images : ∀ tree, parseFragment text = .ok tree →
    (FailsDuring r.output .images ↔ options.images.icons = true ∧
      ∃ o ∈ occurrencesAll [] (cleanup options.cleanup tree),
        Image.IsOutermostIcon o ∧ Image.HasOverlongSize o.node)
  classRules : ∀ tree fixed, parseFragment text = .ok tree →
    replaceImages options.images (cleanup options.cleanup tree) = .ok fixed →
    (FailsDuring r.output .classRules ↔
      (∃ refusal, (ClassRules.engine options.classRules).1 = .error refusal) ∨
        ∃ e, (ClassRules.engine options.classRules).1 = .ok e ∧ ∃ n ∈ nodesAll fixed, ¬e.Accepts n)
  cleanup : ¬FailsDuring r.output .cleanup
  write : ¬FailsDuring r.output .write
  formatter : (∃ s, FailsDuring r.output s) → r.formatted = none
  output : ∀ output, r.output = .ok output → ∃ tree, writtenTree options text = .ok tree ∧
    output = (if options.format then outcome.layout? else none).getD (render options tree)

/-- Every run ends as its stages do: it fails during the first of parsing, the image fixes and the class
    rules that fails, and never during another stage; otherwise the formatter can replace what is written. -/
theorem run_endsAsStaged (f : Formatter) (outcome : Formatter.Outcome) (options : PipelineOptions)
    (text : String) : EndsAsStaged options outcome text (run f outcome options text) := by
  have hfails : ∀ s, FailsDuring (run f outcome options text).output s ↔
      FailsDuring (writtenTree options text) s := by
    intro s
    rw [run_output, failsDuring_map_iff]
  constructor
  case parse =>
    rw [hfails, failsDuring_writtenTree_iff]
    simp [failsDuring_ruledTree_iff]
  case images =>
    intro tree htree
    rw [hfails, failsDuring_writtenTree_iff, ← Image.replaceImages_eq_error_iff]
    simp [failsDuring_ruledTree_iff, htree]
  case classRules =>
    intro tree fixed htree hfixed
    rw [hfails, failsDuring_writtenTree_iff]
    simp [failsDuring_ruledTree_iff, htree, hfixed]
  case cleanup =>
    rw [hfails, failsDuring_writtenTree_iff]
    simp [failsDuring_ruledTree_iff]
  case write =>
    rw [hfails, failsDuring_writtenTree_iff]
    simp [failsDuring_ruledTree_iff]
  case formatter =>
    rintro ⟨s, hs⟩
    exact run_formatted_of_failsDuring ((hfails s).1 hs)
  case output =>
    intro output houtput
    rw [run_output] at houtput
    cases htree : writtenTree options text with
    | error e =>
      rw [htree] at houtput
      cases houtput
    | ok tree =>
      rw [htree] at houtput
      exact ⟨tree, rfl, (Except.ok.inj houtput).symm⟩

/-- An empty text under a rule whose pattern breaks a limit: there is no engine, so the run fails, although
    there is no class token, and the formatter is not started. -/
theorem run_endsAsStaged_refused :
    let options : PipelineOptions :=
      { classRules := { removeRegex := ["a\x7b4294967295\x7d"] }, format := true }
    parseFragment "" = .ok [] ∧ replaceImages options.images (cleanup options.cleanup []) = .ok [] ∧
      FailsDuring (run {} .missing options "").output .classRules ∧
      (run {} .missing options "").formatted = none := by
  intro options
  have hends := run_endsAsStaged {} .missing options ""
  have hparse : parseFragment "" = .ok [] := by decide +kernel
  have hfixed : replaceImages options.images (cleanup options.cleanup []) = .ok [] := rfl
  have hrefused : (ClassRules.engine options.classRules).1 =
      .error ⟨.repetitionTooLarge, "the repetition number is too large"⟩ := by
    decide +kernel
  have hfails : FailsDuring (run {} .missing options "").output .classRules :=
    (hends.classRules [] [] hparse hfixed).2 (Or.inl ⟨_, hrefused⟩)
  exact ⟨hparse, hfixed, hfails, hends.formatter ⟨_, hfails⟩⟩

/-- A pattern that is within all limits, on a token in which it matches with a group that ends before it
    starts: there is an engine, and yet the run fails. -/
theorem run_fails_with_engine :
    let options : PipelineOptions := { classRules := { removeRegex := ["(?:(x)|y)*+"] } }
    (∃ e, (ClassRules.engine options.classRules).1 = .ok e) ∧
      FailsDuring (run {} .missing options "<p class='xyy'></p>").output .classRules := by
  intro options
  have hcompile : options.classRules.AllCompile := by decide +kernel
  refine ⟨⟨_, congrArg Prod.fst (ClassRules.engine_eq_readyEngine hcompile)⟩, .brokenGroup ⟨⟩, ?_⟩
  decide +kernel

end Pipeline
end MarkupCleaner
