import MarkupCleaner.Pattern.Match

/-!
# Replacement templates

A template is text with references to a match: `$$` is a dollar sign, `$&` the whole match, `$1` to
`$99` a group by its number and `$<name>` a group by its name. A reference that means nothing stands
as it is. What a reference is replaced by is not read again.
-/

namespace MarkupCleaner.ClassRules

/-- The text of a group, empty if it took no part. -/
def groupText (m : Pattern.Match) (number : Nat) : List Char := (m.group? number).getD []

/-- The text that a reference by number stands for. If there is no group of a two-digit number, its
    first digit may name one, and the second one is text. -/
def numberedText (p : CompiledPattern) (m : Pattern.Match) (digits : List Char) : List Char :=
  let isGroup := fun (n : Nat) => 1 ≤ n && n ≤ p.groupCount
  let number := Number.digitsValue digits
  if isGroup number then groupText m number
  else
    match digits with
    | [first, second] =>
      if isGroup (Number.digitsValue [first]) then
        groupText m (Number.digitsValue [first]) ++ [second]
      else '$' :: digits
    | _ => '$' :: digits

/-- The text that a reference by name stands for. -/
def namedText (p : CompiledPattern) (m : Pattern.Match) (name : List Char) : List Char :=
  match p.names.lookup name with
  | some number => groupText m number
  | none => '$' :: '<' :: name ++ ['>']

/-- The text of the reference that the characters after a dollar sign start, and how many of them it
    takes up; nothing if they start none. -/
def referenceText? (p : CompiledPattern) (m : Pattern.Match) (cs : List Char) :
    Option (List Char × Nat) :=
  match cs with
  | [] => none
  | '$' :: _ => some (['$'], 1)
  | '&' :: _ => some (m.whole, 1)
  | '<' :: rest =>
    let name := rest.takeWhile (· ≠ '>')
    if name.length < rest.length then some (namedText p m name, name.length + 2) else none
  | _ =>
    let digits := (cs.take 2).takeWhile Unicode.isDecimal
    if digits.isEmpty then none else some (numberedText p m digits, digits.length)

/-- Expands a template after passing over the first `skipped` characters, which a reference has taken
    up. -/
def expandFrom (p : CompiledPattern) (m : Pattern.Match) : (skipped : Nat) → List Char → List Char
  | _, [] => []
  | skipped + 1, _ :: cs => expandFrom p m skipped cs
  | 0, c :: cs =>
    if c = '$' then
      match referenceText? p m cs with
      | some (text, length) => text ++ expandFrom p m length cs
      | none => '$' :: expandFrom p m 0 cs
    else c :: expandFrom p m 0 cs

/-- A template with its references replaced for one match. -/
def expand (p : CompiledPattern) (m : Pattern.Match) (template : List Char) : List Char :=
  expandFrom p m 0 template

end MarkupCleaner.ClassRules
