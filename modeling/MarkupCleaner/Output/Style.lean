import MarkupCleaner.Text.Split
import MarkupCleaner.Text.StringLiteral

/-!
# Style declarations

The inline style of an element as a list of declarations, and its form as an object literal of a
script.
-/

namespace MarkupCleaner.Output

/-- A property and its value, if `rule` holds both. -/
def declaration? (rule : List Char) : Option (List Char × List Char) :=
  let (key, value) := Text.cutAt ':' (Text.trim rule)
  if (Text.trim key).isEmpty || (Text.trim value).isEmpty then none
  else some (Text.trim key, Text.trim value)

/-- The declarations of a style: the parts between semicolons that have a property and a value, cut
    at their first colon. -/
def declarations (style : List Char) : List (List Char × List Char) :=
  (Text.pieces (· = ';') style).filterMap declaration?

/-- The capital of an ASCII letter in lower case. -/
def capital (c : Char) : Char := Char.ofNat (c.toNat - 32)

/-- A property name without hyphens: a lower-case letter after a hyphen becomes a capital in place of
    both. -/
def camelCase : List Char → List Char
  | [] => []
  | [c] => [c]
  | '-' :: c :: cs =>
    if 'a' ≤ c && c ≤ 'z' then capital c :: camelCase cs else '-' :: camelCase (c :: cs)
  | c :: d :: cs => c :: camelCase (d :: cs)

/-- How the keys of a style object are written. -/
inductive StyleMode where
  /-- Names in camel case without quotes. -/
  | object
  /-- The property names in quotes. -/
  | string
deriving DecidableEq, Repr

/-- The key of a property. A custom property is always quoted. -/
def styleKey (mode : StyleMode) (key : List Char) : List Char :=
  if mode = .string || ['-', '-'].isPrefixOf key then '\'' :: key ++ ['\''] else camelCase key

/-- A style as an object literal. -/
def styleObject (mode : StyleMode) (style : List Char) : List Char :=
  match declarations style with
  | [] => ['{', '}']
  | entries =>
    let properties := entries.map fun (key, value) =>
      styleKey mode key ++ ':' :: ' ' :: Text.stringLiteral value
    '{' :: ' ' :: [',', ' '].intercalate properties ++ [' ', '}']

end MarkupCleaner.Output
