import MarkupCleaner.Live.Classes
import MarkupCleaner.Proofs.ClassRules.Sweep

/-!
# The class rules on live documents

The walk over a live document comes to the same tree, or stops for the same reason, as the sweep of the
plain tree.
-/

namespace MarkupCleaner.Live

open LiveNode

/-- What a walk over one node comes to on plain trees. -/
def classStepOutcome : LiveNode × Option Pattern.BrokenGroup → ClassRules.Applied Node
  | (_, some fault) => .error fault
  | (n, none) => .ok n.plain

/-- What a walk over several nodes comes to on plain trees. -/
def classWalkOutcome : List LiveNode × Option Pattern.BrokenGroup → ClassRules.Applied (List Node)
  | (_, some fault) => .error fault
  | (ns, none) => .ok (plainAll ns)

mutual

theorem outcome_classStep (e : ClassRules.Engine) : ∀ n : LiveNode,
    classStepOutcome (classStep e n) = e.applyToNode n.plain
  | .element link tag attrs children ns => by
    rw [plain, ClassRules.Engine.applyToNode, ← outcome_classWalk e children, classStep]
    cases e.applyToAttributes attrs with
    | error fault => rfl
    | ok attrs' =>
      rcases classWalk e children with ⟨children', _ | fault⟩
      · rfl
      · rfl
  | .text link value => rfl
  | .comment link data => rfl

/-- The walk over a live document comes to what the sweep of the plain tree comes to. -/
theorem outcome_classWalk (e : ClassRules.Engine) : ∀ ns : List LiveNode,
    classWalkOutcome (classWalk e ns) = e.applyBelow (plainAll ns)
  | [] => rfl
  | n :: ns => by
    rw [plainAll, ClassRules.Engine.applyBelow, ← outcome_classStep e n, ← outcome_classWalk e ns, classWalk]
    rcases classStep e n with ⟨n', _ | fault⟩
    · rcases classWalk e ns with ⟨ns', _ | fault⟩
      · rfl
      · rfl
    · rfl

end

end MarkupCleaner.Live
