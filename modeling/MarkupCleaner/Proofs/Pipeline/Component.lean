import MarkupCleaner.Proofs.Output.Jsx
import MarkupCleaner.Proofs.Pipeline.Failures

/-!
# What a component returns

A run that wraps its output in a component puts the markup of the written tree between the brackets of one
`return`. Several nodes are put into one element there. A node that is alone is not, whatever it is, and an
empty tree leaves nothing between the brackets.
-/

namespace MarkupCleaner.Pipeline

open Node Output

theorem toReact_of_wrapComponent {options : ReactOptions} (h : options.wrapComponent = true) (part : Part) :
    toReact options part = "export default function " ++ componentName options ++ "() \x7b\n  return (" ++
      reactBody options part ++ ");\n\x7d" := by
  unfold toReact
  rw [if_pos h]
  simp [String.append_assoc]

/-- The markup that a component returns starts and ends with a bracket exactly if the written tree has one
element at the top or more than one node, and if the nodes are written by the grammar it then is a single
element or fragment. -/
theorem run_component (f : Formatter) (outcome : Formatter.Outcome) {options : PipelineOptions}
    (houtput : options.output = .react) (hwrap : options.react.wrapComponent = true)
    (hformat : options.format = false) {text output : String}
    (h : (run f outcome options text).output = .ok output) :
    ∃ t body, writtenTree options text = .ok t ∧
      output = "export default function " ++ componentName options.react ++ "() \x7b\n  return (" ++ body ++
        ");\n\x7d" ∧
      (IsBracketed body.toList ↔ HasOneRoot t) ∧
      ((∀ n ∈ nodesAll t, IsJsxNode n) → (IsJsx .element body.toList ↔ HasOneRoot t)) := by
  obtain ⟨t, ht, rfl⟩ := exists_writtenTree_of_run hformat h
  refine ⟨t, reactBody options.react (.fragment t), ht, ?_, isBracketed_reactBody_iff options.react t,
    fun hnodes => isJsx_reactBody_iff options.react hnodes⟩
  rw [render, houtput]
  exact toReact_of_wrapComponent hwrap (.fragment t)

/-- Two nodes at the top, with a style and a comment. -/
theorem run_component_several :
    let options : PipelineOptions := { output := .react }
    let text := "<p style=\"font-size: 1px\">a</p><!--b-->"
    let output := "export default function FigmaComponent() \x7b\n  return (" ++
      "<><p style=\x7b\x7b fontSize: \"1px\" \x7d\x7d>a</p>\x7b/*b*/\x7d</>" ++ ");\n\x7d"
    options.output = .react ∧ options.react.wrapComponent = true ∧ options.format = false ∧
      (run {} .missing options text).output = .ok output ∧
      ∃ t body, writtenTree options text = .ok t ∧
        output = "export default function " ++ componentName options.react ++ "() \x7b\n  return (" ++ body ++
          ");\n\x7d" ∧
        (IsBracketed body.toList ↔ HasOneRoot t) ∧
        ((∀ n ∈ nodesAll t, IsJsxNode n) → (IsJsx .element body.toList ↔ HasOneRoot t)) := by
  intro options text output
  have hrun : (run {} .missing options text).output = .ok output := by decide +kernel
  exact ⟨rfl, rfl, rfl, hrun, run_component {} .missing rfl rfl rfl hrun⟩

/-- A component that returns nothing, a bare text, or an expression that is only a comment. -/
theorem run_component_of_leaf :
    let options : PipelineOptions := { output := .react }
    let component (body : String) : String :=
      "export default function FigmaComponent() \x7b\n  return (" ++ body ++ ");\n\x7d"
    ((run {} .missing options "").output = .ok (component "") ∧ ¬IsJsx .element "".toList) ∧
      ((run {} .missing options "hello").output = .ok (component "hello") ∧
        ¬IsJsx .element "hello".toList) ∧
      (run {} .missing options "<!--a-->").output = .ok (component "\x7b/*a*/\x7d") ∧
        ¬IsJsx .element "\x7b/*a*/\x7d".toList := by
  have hbracketed {cs : List Char} (h : cs.head? ≠ some '<') : ¬IsJsx .element cs := by
    intro helement
    obtain ⟨inner, rfl⟩ := helement.isBracketed
    exact h rfl
  refine ⟨⟨?_, hbracketed (by decide)⟩, ⟨?_, hbracketed (by decide)⟩, ?_, hbracketed (by decide)⟩ <;>
    decide +kernel

end MarkupCleaner.Pipeline
