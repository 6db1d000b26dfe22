import MarkupCleaner.Text.Blank

/-!
# Cutting text apart

Cutting at a character, at a fixed mark and at line ends. Every cut keeps the order of the pieces and
drops only the separators.
-/

namespace MarkupCleaner.Text

/-- The text before the first `separator` and the text after it, which is empty if there is none. -/
def cutAt (separator : Char) (cs : List Char) : List Char × List Char :=
  (cs.takeWhile (· ≠ separator), (cs.dropWhile (· ≠ separator)).drop 1)

/-- The rest of `cs` after `lead`, if `cs` starts with it. -/
def after? : List Char → List Char → Option (List Char)
  | [], cs => some cs
  | _ :: _, [] => none
  | l :: lead, c :: cs => if l = c then after? lead cs else none

/-- The pieces between the arrows `->`, found from the left without overlap. -/
def arrowPieces : List Char → List (List Char)
  | [] => [[]]
  | [c] => [[c]]
  | '-' :: '>' :: cs => [] :: arrowPieces cs
  | c :: d :: cs =>
    match arrowPieces (d :: cs) with
    | [] => [[c]]
    | piece :: rest => (c :: piece) :: rest

/-- A character that ends a line. -/
def isLineEnd (c : Char) : Bool :=
  c = '\n' || c = '\r' || c = '\x0b' || c = '\x0c' || c = '\x1c' || c = '\x1d' || c = '\x1e'
    || c = '\x85' || c = '\u2028' || c = '\u2029'

/-- The pieces between the ends of lines. A carriage return with a line feed after it is one end. -/
def linePieces : List Char → List (List Char)
  | [] => [[]]
  | '\r' :: '\n' :: cs => [] :: linePieces cs
  | c :: cs =>
    if isLineEnd c then [] :: linePieces cs
    else
      match linePieces cs with
      | [] => [[c]]
      | line :: rest => (c :: line) :: rest

/-- The lines of a text: an end of line at the end of the text opens no further line. -/
def lines (cs : List Char) : List (List Char) :=
  let ls := linePieces cs
  if ls.getLast? = some [] then ls.dropLast else ls

end MarkupCleaner.Text
