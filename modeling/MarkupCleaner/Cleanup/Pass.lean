import MarkupCleaner.Cleanup.Duplicate
import MarkupCleaner.Cleanup.Flatten
import MarkupCleaner.Cleanup.Nesting
import MarkupCleaner.Cleanup.Semantic
import MarkupCleaner.Cleanup.Whitespace
import MarkupCleaner.Log

/-!
# The passes of the cleanup

The six passes, the order in which they run and the switches that turn them off. White space is
normalised before emptiness is judged, and what is empty goes before wrappers are flattened, so that
white space is never the only content of a wrapper.
-/

namespace MarkupCleaner

/-- Which passes of the cleanup run. -/
structure CleanupOptions where
  normalizeWhitespace : Bool := true
  removeEmpty : Bool := true
  semanticTags : Bool := true
  flattenWrappers : Bool := true
  removeDuplicateAttrs : Bool := true
  fixNesting : Bool := true
deriving DecidableEq, Repr

namespace Cleanup

/-- A pass of the cleanup. -/
inductive Pass where
  | normalizeWhitespace
  | removeEmpty
  | semanticTags
  | flattenWrappers
  | duplicateAttributes
  | nesting
deriving DecidableEq, Repr

namespace Pass

/-- The passes in the order in which they run. -/
def inOrder : List Pass :=
  [normalizeWhitespace, removeEmpty, semanticTags, flattenWrappers, duplicateAttributes, nesting]

/-- What a pass does to a tree. -/
def apply : Pass → Fragment → Fragment
  | normalizeWhitespace => Cleanup.normalizeWhitespace
  | removeEmpty => Cleanup.removeEmpty
  | semanticTags => convertSemanticTags
  | flattenWrappers => Cleanup.flattenWrappers
  | duplicateAttributes => removeDuplicateAttributes
  | nesting => fixNesting

/-- The name of a pass in the log. -/
def logName : Pass → String
  | normalizeWhitespace => "normalize_whitespace"
  | removeEmpty => "remove_empty_nodes"
  | semanticTags => "convert_semantic_tags"
  | flattenWrappers => "flatten_single_child_wrappers"
  | duplicateAttributes => "remove_duplicate_attributes"
  | nesting => "fix_invalid_nesting"

/-- The message that a pass runs. -/
def entry (p : Pass) : Entry := ⟨.debug, "Running cleanup pass " ++ p.logName⟩

/-- The name of the switch of a pass. -/
def optionName : Pass → String
  | normalizeWhitespace => "normalize_whitespace"
  | removeEmpty => "remove_empty"
  | semanticTags => "semantic_tags"
  | flattenWrappers => "flatten_wrappers"
  | duplicateAttributes => "remove_duplicate_attrs"
  | nesting => "fix_nesting"

/-- Whether a pass is switched on. -/
def enabled (options : CleanupOptions) : Pass → Bool
  | normalizeWhitespace => options.normalizeWhitespace
  | removeEmpty => options.removeEmpty
  | semanticTags => options.semanticTags
  | flattenWrappers => options.flattenWrappers
  | duplicateAttributes => options.removeDuplicateAttrs
  | nesting => options.fixNesting

end Pass

/-- The passes that are switched on, in the order in which they run. -/
def enabledPasses (options : CleanupOptions) : List Pass :=
  Pass.inOrder.filter (Pass.enabled options)

end Cleanup

/-- Runs the passes that are switched on. -/
def cleanup (options : CleanupOptions) (ns : Fragment) : Fragment :=
  (Cleanup.enabledPasses options).foldl (fun tree pass => pass.apply tree) ns

end MarkupCleaner
