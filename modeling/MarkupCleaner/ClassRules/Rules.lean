import MarkupCleaner.Text.Split

/-!
# Class rules

What a user asks to be done with class tokens, and the two notations in which a user writes it down: a
list of classes between commas, and a list of renames, one per line.
-/

namespace MarkupCleaner

/-- A rename: the token `source` becomes `target`. With `isRegex` the source is a pattern and the
    target a template for what it matches. -/
structure RenameRule where
  source : String
  target : String
  isRegex : Bool := false
deriving DecidableEq, Repr

/-- The rules for class tokens. They apply in the order of the fields. -/
structure ClassRules where
  remove : List String := []
  removeRegex : List String := []
  rename : List RenameRule := []
  lead : Option String := none
deriving DecidableEq, Repr

namespace ClassRules

/-- A text without the slashes around it, if it has both and something between them. -/
def withoutSlashes (cs : List Char) : List Char :=
  match cs with
  | '/' :: rest => if rest.getLast? = some '/' && 2 ≤ rest.length then rest.dropLast else cs
  | _ => cs

/-- The entries of a list between commas, without blanks and slashes around them. -/
def parseClassList (text : String) : List String :=
  (((Text.pieces (· = ',') text.toList).map Text.trim).filter fun entry => !entry.isEmpty).map
    fun entry => .ofList (withoutSlashes entry)

/-- The rename that a line writes with an arrow between source and target; a line without both is
    none. Further arrows belong to the target. -/
def parseRename? (line : List Char) : Option RenameRule :=
  match (Text.arrowPieces (Text.trim line)).map Text.trim with
  | source :: first :: more =>
    if source.isEmpty || first.isEmpty then none
    else
      some { source := .ofList source, target := .ofList (['-', '>'].intercalate (first :: more)) }
  | _ => none

/-- The renames of a text, one per line. -/
def parseRenameMap (text : String) : List RenameRule :=
  (Text.lines text.toList).filterMap parseRename?

/-- The rules that a user's texts describe. With `regex` the list of classes is a list of patterns; an
    empty lead is none. -/
def ofText (remove : String) (regex : Bool) (lead : String) (renameMap : String) : ClassRules :=
  let entries := parseClassList remove
  { remove := if regex then [] else entries
    removeRegex := if regex then entries else []
    rename := parseRenameMap renameMap
    lead := if lead = "" then none else some lead }

end ClassRules
end MarkupCleaner
