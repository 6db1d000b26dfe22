import MarkupCleaner.Pipeline
import MarkupCleaner.Proofs.Image.Filled

/-!
# Detectors that cannot fire

If empty nodes are removed the detectors of background and role images find nothing, so a run of the
pipeline comes to the same result, with the same log, whether they are used or not.
-/

namespace MarkupCleaner

/-- The same options but for the detectors of background and role images. -/
def PipelineOptions.withBoxDetectors (options : PipelineOptions) (backgrounds roles : Bool) :
    PipelineOptions :=
  { options with images := { options.images with backgrounds, roles } }

namespace Pipeline

/-- Cleaning up cannot fail: what comes next gets the clean tree. -/
theorem cleanupTree_bind {α : Type} (options : CleanupOptions) (tree : Fragment)
    (next : Fragment → Staged α) : (cleanupTree options tree >>= next) =
      (record ((Cleanup.enabledPasses options).map Cleanup.Pass.entry) >>= fun _ =>
        next (cleanup options tree)) := by
  rw [cleanupTree, bind_assoc]
  rfl

theorem fixImages_of_filled (options : ImageOptions) (backgrounds roles : Bool) {tree : Fragment}
    (h : ∀ n ∈ Node.nodesAll tree, Image.IsFilled n) :
    fixImages { options with backgrounds, roles } tree = fixImages options tree := by
  rw [fixImages, fixImages, replaceImages, replaceImages,
    Image.replaceBelow_of_filled options backgrounds roles tree h]

/-- Only the image stage looks at the detectors, and the tree it gets has no `div` without content. -/
theorem stages_withBoxDetectors {options : PipelineOptions} (h : options.cleanup.removeEmpty = true)
    (backgrounds roles : Bool) (text : String) :
    stages (options.withBoxDetectors backgrounds roles) text = stages options text := by
  unfold stages
  refine congrArg (parseText text >>= ·) (funext fun tree => ?_)
  rw [cleanupTree_bind, cleanupTree_bind]
  simp only [PipelineOptions.withBoxDetectors]
  rw [fixImages_of_filled options.images backgrounds roles (Image.isFilled_of_mem_cleanup h tree)]
  rfl

/-- If empty nodes are removed, runs that differ only in whether background and role images are looked
    for have the same result: the same output or failure, the same log and the same call of the
    formatter. -/
theorem run_withBoxDetectors (f : Formatter) (outcome : Formatter.Outcome) {options : PipelineOptions}
    (h : options.cleanup.removeEmpty = true) (backgrounds roles backgrounds' roles' : Bool)
    (text : String) : run f outcome (options.withBoxDetectors backgrounds roles) text =
      run f outcome (options.withBoxDetectors backgrounds' roles') text := by
  have hstages := stages_withBoxDetectors h backgrounds roles text
  have hstages' := stages_withBoxDetectors h backgrounds' roles' text
  rw [run, run, unformatted, unformatted, hstages, hstages']
  rfl

/-- A box with a background image and a role, with all detectors and with neither of the two. -/
theorem run_withBoxDetectors_background :
    let options : PipelineOptions := {}
    let text := "<div>a<div role='img' style='background: url(a.png)'> </div></div>"
    options.cleanup.removeEmpty = true ∧
      (run {} .missing (options.withBoxDetectors true true) text).output = .ok "<div>a</div>" ∧
      run {} .missing (options.withBoxDetectors true true) text =
        run {} .missing (options.withBoxDetectors false false) text := by
  refine ⟨rfl, ?_, run_withBoxDetectors {} .missing rfl true true false false _⟩
  decide +kernel

/-- If empty nodes stay the detectors do make a difference. -/
example :
    let options : PipelineOptions := { cleanup := { removeEmpty := false } }
    let text := "<div role='img'></div>"
    (run {} .missing (options.withBoxDetectors false true) text).output =
        .ok "<img alt=\"\" />" ∧
      (run {} .missing (options.withBoxDetectors false false) text).output =
        .ok "<div role=\"img\"></div>" := by
  decide +kernel

end Pipeline
end MarkupCleaner
