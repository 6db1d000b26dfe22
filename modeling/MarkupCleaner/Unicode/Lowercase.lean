import MarkupCleaner.Unicode.CaseTable

/-!
# Lower case

The lower-case form of a text. Each character has a simple lower-case letter; two rules go beyond
the character: the dotted capital I becomes two characters, and a capital sigma at the end of a word
becomes the final sigma.
-/

namespace MarkupCleaner.Unicode

/-- The code point that a table of runs gives for a code point, itself if it is not listed. -/
def mappedCode (code : Nat) (runs : List CaseRun) : Nat :=
  match runs with
  | [] => code
  | (first, last, step, image) :: rest =>
    if code < first then code
    else if code ≤ last && (code - first) % step == 0 then image + (code - first)
    else mappedCode code rest

/-- The simple lower-case letter of a code point, itself if it has none. -/
def lowerCode (code : Nat) : Nat := mappedCode code lowercaseRuns

/-- The simple lower-case letter of a character, itself if it has none. -/
def simpleLower (c : Char) : Char := Char.ofNat (lowerCode c.toNat)

/-- Whether the nearest character that is not skipped has case. -/
def nextIsCased : List Char → Bool
  | [] => false
  | c :: cs =>
    if caseIgnorableRanges.covers c.toNat then nextIsCased cs else casedRanges.covers c.toNat

/-- A capital sigma is final if a cased letter comes before it and none after it. `before` lists the
    characters before it, the nearest first. -/
def isFinalSigma (before after : List Char) : Bool := nextIsCased before && !nextIsCased after

/-- The lower-case form of one character in its place. -/
def lowerAt (before : List Char) (c : Char) (after : List Char) : List Char :=
  if c = 'İ' then ['i', '\u0307']
  else if c = 'Σ' then [if isFinalSigma before after then 'ς' else 'σ']
  else [simpleLower c]

/-- The lower-case form of `cs` after the characters `before`, the nearest first. -/
def lowerAfter (before : List Char) : List Char → List Char
  | [] => []
  | c :: cs => lowerAt before c cs ++ lowerAfter (c :: before) cs

/-- The lower-case form of a text. -/
def lower (cs : List Char) : List Char := lowerAfter [] cs

end MarkupCleaner.Unicode
