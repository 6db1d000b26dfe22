import MarkupCleaner.Text.Blank
import MarkupCleaner.Unicode.Lowercase

/-!
# Attributes

The attributes of an element as an ordered list of names and values. Names are looked up by their
lower-case form. The class attribute has two spellings, `class` and `classname`; together they hold
one list of class tokens.
-/

namespace MarkupCleaner

/-- A name and its value. -/
structure Attribute where
  name : String
  value : String := ""
deriving DecidableEq, Repr, Inhabited

/-- The attributes of an element in the order they were written. -/
abbrev Attributes := List Attribute

namespace Attributes

/-- The lower-case form of an attribute name. -/
def lowerName (name : String) : String := .ofList (Unicode.lower name.toList)

/-- The value of the first attribute with exactly this name. -/
def value? (attrs : Attributes) (name : String) : Option String :=
  (attrs.find? fun a => a.name = name).map Attribute.value

/-- The value of an attribute; the name may be given in any case. -/
def get? (attrs : Attributes) (name : String) : Option String := attrs.value? (lowerName name)

/-- Writes a value to the first attribute with exactly this name, or adds one at the end. -/
def write (attrs : Attributes) (name value : String) : Attributes :=
  match attrs with
  | [] => [⟨name, value⟩]
  | a :: rest => if a.name = name then ⟨a.name, value⟩ :: rest else a :: write rest name value

/-- Sets the value of an attribute; the name may be given in any case. -/
def set (attrs : Attributes) (name value : String) : Attributes :=
  attrs.write (lowerName name) value

/-- Without any attribute of this name; the name may be given in any case. -/
def erase (attrs : Attributes) (name : String) : Attributes :=
  attrs.filter fun a => a.name ≠ lowerName name

/-- Whether an attribute has exactly this name. -/
def has (attrs : Attributes) (name : String) : Bool := attrs.any fun a => a.name = name

/-- The distinct non-empty tokens of a list, each at its first place. -/
def distinctTokens (tokens : List String) : List String :=
  go [] tokens
where
  /-- The tokens that are new after those in `seen`. -/
  go (seen : List String) : List String → List String
    | [] => []
    | token :: rest =>
      if token = "" ∨ token ∈ seen then go seen rest else token :: go (token :: seen) rest

/-- The spelling of the class attribute that is in use, `class` if both are. -/
def classSpelling? (attrs : Attributes) : Option String :=
  if attrs.has "class" then some "class"
  else if attrs.has "classname" then some "classname"
  else none

/-- The distinct class tokens: the words of the `class` value, then those of the `classname`
    value. -/
def classTokens (attrs : Attributes) : List String :=
  let values := [attrs.value? "class", attrs.value? "classname"].filterMap id
  distinctTokens ((values.flatMap fun v => Text.words v.toList).map String.ofList)

/-- Writes class tokens back under one spelling: the one in use, otherwise `class`. The other spelling
    is dropped, and an empty list drops both. -/
def setClassTokens (attrs : Attributes) (tokens : List String) : Attributes :=
  if tokens.isEmpty then (attrs.erase "class").erase "classname"
  else
    match attrs.classSpelling? with
    | some "classname" => (attrs.write "classname" (" ".intercalate tokens)).erase "class"
    | _ => (attrs.write "class" (" ".intercalate tokens)).erase "classname"

end Attributes
end MarkupCleaner
