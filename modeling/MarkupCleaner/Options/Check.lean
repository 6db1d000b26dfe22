import MarkupCleaner.Data.Checked
import MarkupCleaner.Options

/-!
# Checking options

Options as they come from outside, checked field by field. A field that is left out has its default,
and a field that is not known is passed over.
-/

namespace MarkupCleaner

open Value (required optional checkBool checkString checkText? checkList checkRecord checkWord
  checkChoice)

/-- Options of the cleanup. -/
def CleanupOptions.check : Value → Checked CleanupOptions :=
  checkRecord "CleanupOptions" fun fields =>
    CleanupOptions.mk
      <$> optional fields "normalize_whitespace" checkBool true
      <*> optional fields "remove_empty" checkBool true
      <*> optional fields "semantic_tags" checkBool true
      <*> optional fields "flatten_wrappers" checkBool true
      <*> optional fields "remove_duplicate_attrs" checkBool true
      <*> optional fields "fix_nesting" checkBool true

/-- A rename; its source and its target have to be there. -/
def RenameRule.check : Value → Checked RenameRule :=
  checkRecord "RenameRule" fun fields =>
    RenameRule.mk
      <$> required fields "source" checkString
      <*> required fields "target" checkString
      <*> optional fields "is_regex" checkBool false

/-- Class rules. -/
def ClassRules.check : Value → Checked ClassRules :=
  checkRecord "ClassRules" fun fields =>
    ClassRules.mk
      <$> optional fields "remove" (checkList checkString) []
      <*> optional fields "remove_regex" (checkList checkString) []
      <*> optional fields "rename" (checkList RenameRule.check) []
      <*> optional fields "prefix" checkText? none

/-- Options of the image fixes. -/
def ImageOptions.check : Value → Checked ImageOptions :=
  checkRecord "ImageFixOptions" fun fields =>
    ImageOptions.mk
      <$> optional fields "enable_figma_icons" checkBool true
      <*> optional fields "enable_background_images" checkBool true
      <*> optional fields "enable_role_images" checkBool true

/-- The style modes by name. -/
def Output.StyleMode.byName : List (String × Output.StyleMode) :=
  [("object", .object), ("string", .string)]

/-- Options of component sources. -/
def ReactOptions.check : Value → Checked ReactOptions :=
  checkRecord "ReactOptions" fun fields =>
    ReactOptions.mk
      <$> optional fields "component_name" checkString defaultComponentName
      <*> optional fields "wrap_component" checkBool true
      <*> optional fields "use_class_name" checkBool true
      <*> optional fields "use_fragments" checkBool true
      <*> optional fields "style_mode" (checkWord Output.StyleMode.byName) .object

/-- Options of the pipeline. -/
def PipelineOptions.check : Value → Checked PipelineOptions :=
  checkRecord "PipelineOptions" fun fields =>
    PipelineOptions.mk
      <$> optional fields "output" (checkChoice Target.byName) .html
      <*> optional fields "cleanup" CleanupOptions.check {}
      <*> optional fields "class_rules" ClassRules.check {}
      <*> optional fields "image_fix" ImageOptions.check {}
      <*> optional fields "react" ReactOptions.check {}
      <*> optional fields "format" checkBool false

end MarkupCleaner
