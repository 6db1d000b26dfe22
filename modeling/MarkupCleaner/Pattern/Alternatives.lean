import MarkupCleaner.Pattern.Basic

/-!
# Rows and alternatives

How items that have been read are put together. A plain group is no more than the items inside it.
What all alternatives start with stands in front of them, and alternatives of one character each are a
set. None of this changes which texts match; it does change where a search may start, and what is
tried first.
-/

namespace MarkupCleaner.Pattern

/-- The items of a pattern that is items in a row. -/
def items : Pattern → List Pattern
  | seq p q => p :: q.items
  | empty => []
  | p => [p]

/-- What a plain group holds; anything else is kept as it is. -/
def contents : Pattern → Pattern
  | flagged [] [] p => p
  | p => p

/-- Items with every plain group replaced by the items that it holds. -/
def unwrapped (ps : List Pattern) : List Pattern :=
  ps.flatMap fun p =>
    match p with
    | flagged [] [] body => body.items
    | p => [p]

/-- A set of characters. Repeated members count once; a set of a single character is the
    character. -/
def ofMembers (negated : Bool) (members : List Member) : Pattern :=
  match members.eraseDups with
  | [.code code] => if negated then notLiteral code else literal code
  | members => set negated members

/-- Whether an item may be moved in front of the alternatives that all start with it. -/
def isShareable : Pattern → Bool
  | literal _ | notLiteral _ | any | set .. | anchor _ | backreference _ => true
  | _ => false

/-- The number of items that alternatives have in common at their start; `first` is the first of the
    alternatives. -/
def sharedCount (first : List Pattern) (others : List (List Pattern)) : Nat :=
  match first with
  | [] => 0
  | p :: ps =>
    if p.isShareable && others.all (fun branch => branch.head? = some p) then
      sharedCount ps (others.map List.tail) + 1
    else 0

/-- The members of the set that an alternative of one character is, if it is one. -/
def singleMembers? : List Pattern → Option (List Member)
  | [literal code] => some [.code code]
  | [set false members] => some members
  | _ => none

/-- Alternatives as items in a row. -/
def ofBranches : List (List Pattern) → List Pattern
  | [] => []
  | [branch] => branch
  | first :: others =>
    let count := sharedCount first others
    let rests := (first :: others).map (List.drop count)
    let choice :=
      match rests.mapM singleMembers? with
      | some members => set false members.flatten.eraseDups
      | none => ofAlternatives (rests.map ofItems)
    first.take count ++ [choice]

end MarkupCleaner.Pattern
