/-!
# Blank characters

Which characters count as white space, and the operations that are defined by them: trimming,
collapsing runs to one space, and cutting a text into words.
-/

namespace MarkupCleaner.Text

/-- White space: the ASCII control and separator characters, the next-line character and every
    space, line and paragraph separator of Unicode. The zero-width space is none. -/
def isBlankChar (c : Char) : Bool :=
  let code := c.toNat
  (0x09 ≤ code && code ≤ 0x0D) || (0x1C ≤ code && code ≤ 0x20) || code == 0x85 || code == 0xA0
    || code == 0x1680 || (0x2000 ≤ code && code ≤ 0x200A) || code == 0x2028 || code == 0x2029
    || code == 0x202F || code == 0x205F || code == 0x3000

/-- Without the white space at the front. -/
def trimStart (cs : List Char) : List Char := cs.dropWhile isBlankChar

/-- Without the white space at the end. -/
def trimEnd (cs : List Char) : List Char := (cs.reverse.dropWhile isBlankChar).reverse

/-- Without the white space at both ends. -/
def trim (cs : List Char) : List Char := trimEnd (trimStart cs)

/-- Every run of white space replaced by a single space. -/
def collapse : List Char → List Char
  | [] => []
  | c :: cs =>
    if isBlankChar c then
      match collapse cs with
      | ' ' :: rest => ' ' :: rest
      | rest => ' ' :: rest
    else c :: collapse cs

/-- The pieces between the characters that satisfy `p`, empty ones included: one more than there are
    such characters. -/
def pieces (p : Char → Bool) : List Char → List (List Char)
  | [] => [[]]
  | c :: cs =>
    if p c then [] :: pieces p cs
    else
      match pieces p cs with
      | [] => [[c]]
      | piece :: rest => (c :: piece) :: rest

/-- The words of a text: its maximal runs of characters that are not white space. -/
def words (cs : List Char) : List (List Char) := (pieces isBlankChar cs).filter fun w => !w.isEmpty

/-- A text is blank if it holds white space only; the empty text is blank. -/
def isBlank (s : String) : Bool := s.toList.all isBlankChar

/-- A text without the white space at both ends. -/
def stripped (s : String) : String := .ofList (trim s.toList)

/-- A text with every run of white space replaced by a single space. -/
def collapsed (s : String) : String := .ofList (collapse s.toList)

theorem pieces_ne_nil (p : Char → Bool) (cs : List Char) : pieces p cs ≠ [] := by
  induction cs with
  | nil => simp [pieces]
  | cons c cs ih =>
    unfold pieces
    split
    · simp
    · split <;> simp

theorem isBlankChar_space : isBlankChar ' ' = true := by decide

@[simp] theorem isBlank_empty : isBlank "" = true := by simp [isBlank]

theorem toList_collapsed (s : String) : (collapsed s).toList = collapse s.toList := by
  simp [collapsed]

theorem toList_stripped (s : String) : (stripped s).toList = trim s.toList := by
  simp [stripped]

end MarkupCleaner.Text
