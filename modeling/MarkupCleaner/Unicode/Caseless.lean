import MarkupCleaner.Unicode.CapitalTable
import MarkupCleaner.Unicode.Lowercase

/-!
# Caseless comparison

Two characters are the same without regard to case if their simple lower-case letters are the same
or belong to one class of letters that share a capital.
-/

namespace MarkupCleaner.Unicode

/-- The classes of lower-case letters that share a capital. -/
def sharedCapitals : List (List Nat) :=
  [[0x69, 0x131], [0x73, 0x17F], [0xB5, 0x3BC], [0x345, 0x3B9, 0x1FBE], [0x390, 0x1FD3],
   [0x3B0, 0x1FE3], [0x3B2, 0x3D0], [0x3B5, 0x3F5], [0x3B8, 0x3D1], [0x3BA, 0x3F0],
   [0x3C0, 0x3D6], [0x3C1, 0x3F1], [0x3C2, 0x3C3], [0x3C6, 0x3D5], [0x432, 0x1C80],
   [0x434, 0x1C81], [0x43E, 0x1C82], [0x441, 0x1C83], [0x442, 0x1C84, 0x1C85],
   [0x44A, 0x1C86], [0x463, 0x1C87], [0x1C88, 0xA64B], [0x1E61, 0x1E9B], [0xFB05, 0xFB06]]

/-- The lower-case letters that count as the same as `code`, itself among them. -/
def caseClass (code : Nat) : List Nat :=
  (sharedCapitals.find? fun codes => codes.contains code).getD [code]

/-- The code points whose simple lower-case letter is `code`. -/
def capitalsOf (code : Nat) : List Nat :=
  lowercaseRuns.filterMap fun (first, last, step, image) =>
    let capital := first + (code - image)
    if image ≤ code && capital ≤ last && (code - image) % step == 0 then some capital else none

/-- The simple capital of a code point, itself if it has none. -/
def upperCode (code : Nat) : Nat := mappedCode code uppercaseRuns

/-- Whether a run lists a code point from `first` to `last`. -/
def CaseRun.lists (first last : Nat) (run : CaseRun) : Bool :=
  let (runFirst, runLast, step, _) := run
  runFirst + (first - runFirst + step - 1) / step * step ≤ min last runLast

/-- Whether a code point from `first` to `last` has a lower-case letter or a capital other than
    itself. -/
def anyCased (first last : Nat) : Bool :=
  lowercaseRuns.any (CaseRun.lists first last) || uppercaseRuns.any (CaseRun.lists first last)

/-- Whether a code point has a lower-case letter or a capital other than itself. -/
def isCased (code : Nat) : Bool := anyCased code code

/-- The code points that are the same as the lower-case letter `code` without regard to case. -/
def caseVariants (code : Nat) : List Nat :=
  let letters := caseClass code
  letters ++ letters.flatMap capitalsOf

/-- Whether two characters are the same without regard to case. -/
def equalCaseless (c d : Char) : Bool :=
  c = d || (caseClass (lowerCode c.toNat)).contains (lowerCode d.toNat)

/-- The rest of `cs` after `word`, compared without regard to case, if `cs` starts with it. -/
def afterCaseless? : List Char → List Char → Option (List Char)
  | [], cs => some cs
  | _ :: _, [] => none
  | w :: word, c :: cs => if equalCaseless w c then afterCaseless? word cs else none

end MarkupCleaner.Unicode
