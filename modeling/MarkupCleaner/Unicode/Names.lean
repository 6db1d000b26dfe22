import MarkupCleaner.Unicode.NameTable

/-!
# Finding a character by its name

A name is compared without regard to the case of its ASCII letters; blanks and hyphens count.
-/

namespace MarkupCleaner.Unicode

/-- The code point that a name belongs to. The empty name belongs to none, and so do the names that are
    not listed. -/
def namedCode? (name : List Char) : Option Nat :=
  let name := String.ofList (name.map Char.toUpper)
  if name.isEmpty then none
  else
    match namedStretches.findSome? fun (first, names) => (names.idxOf? name).map (first + ·) with
    | some code => some code
    | none => (singleNames.find? fun entry => entry.2 == name).map Prod.fst

end MarkupCleaner.Unicode
