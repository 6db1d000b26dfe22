import MarkupCleaner.Text.Blank

/-!
# Places in the file system

The text of a path in its normal form: without empty steps and without steps that stay where they
are. A path that leads nowhere is the current directory. A settled path has no steps back either, as
far as there is something to go back from.
-/

namespace MarkupCleaner.FilePlace

/-- What a path starts from: nothing, the root, or the root written with exactly two slashes, which
    is kept apart. -/
def root (cs : List Char) : List Char :=
  let slashes := (cs.takeWhile (· = '/')).length
  if slashes = 0 then [] else if slashes = 2 then ['/', '/'] else ['/']

/-- The steps of a path. -/
def steps (cs : List Char) : List (List Char) :=
  (Text.pieces (· = '/') cs).filter fun step => !step.isEmpty && step ≠ ['.']

/-- The text of the path that takes some steps from its start. -/
def path (root : List Char) (steps : List (List Char)) : String :=
  match root ++ ['/'].intercalate steps with
  | [] => "."
  | text => .ofList text

/-- A path in its normal form. -/
def normal (text : String) : String := path (root text.toList) (steps text.toList)

/-- A place inside a directory. -/
def inside (directory name : String) : String := normal (directory ++ "/" ++ name)

/-- The directory that a place lies in. -/
def directory (text : String) : String := path (root text.toList) (steps text.toList).dropLast

/-- The step back to the directory that something lies in. -/
def back : List Char := ['.', '.']

/-- The steps that are left of `steps` once each step back has taken away the one before it. `taken`
    are the steps before them with the last one first. At the root a step back leads nowhere. -/
def settledSteps (fromRoot : Bool) (taken : List (List Char)) : List (List Char) → List (List Char)
  | [] => taken.reverse
  | step :: rest =>
    if step ≠ back then settledSteps fromRoot (step :: taken) rest
    else
      match taken with
      | [] => settledSteps fromRoot (if fromRoot then [] else [back]) rest
      | last :: before =>
        settledSteps fromRoot (if last = back then back :: taken else before) rest

/-- A path without steps back that could be left out. -/
def settled (text : String) : String :=
  let start := root text.toList
  path start (settledSteps (!start.isEmpty) [] (steps text.toList))

/-- Whether a settled path stays below the current directory. -/
def isBelow (text : String) : Bool :=
  (root text.toList).isEmpty && (steps text.toList).head? ≠ some back

end MarkupCleaner.FilePlace
