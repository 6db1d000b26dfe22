import MarkupCleaner.Markup.Reference
import MarkupCleaner.Tree.Attribute

/-!
# Start tags

Reading a start tag after its opening angle bracket: the tag name, the attributes with their values,
and how the tag ends. The reader is lenient. An attribute may start wherever a blank, a slash or a
quote comes before it, and a value whose quote is never closed is no value.
-/

namespace MarkupCleaner.Markup

/-- An ASCII letter. -/
def isAsciiLetter (c : Char) : Bool := ('a' ≤ c && c ≤ 'z') || ('A' ≤ c && c ≤ 'Z')

/-- A character that ends the name of a tag. -/
def endsTagName (c : Char) : Bool :=
  c = '\t' || c = '\n' || c = '\r' || c = '\x0c' || c = ' ' || c = '/' || c = '>' || c = '\x00'

/-- A quote around a value. -/
def isQuote (c : Char) : Bool := c = '\'' || c = '"'

/-- A character that may stand in the name of an attribute after its first character. -/
def isAttributeNameChar (c : Char) : Bool :=
  !(Text.isBlankChar c || c = '/' || c = '=' || c = '>')

/-- A character that may stand in a value without quotes. -/
def isBareValueChar (c : Char) : Bool := !(Text.isBlankChar c || c = '>')

/-- Whether an attribute may start with `c` when `prev` is the character before it. -/
def startsAttribute (prev c : Char) : Bool :=
  (isQuote prev || prev = '/' || Text.isBlankChar prev)
    && !(Text.isBlankChar c || c = '/' || c = '>')

/-- Skips blanks, and slashes that do not close the tag. Gives the last character before the rest,
    `prev` if nothing was skipped, and the rest. -/
def skipGap (prev : Char) : List Char → Char × List Char
  | [] => (prev, [])
  | c :: cs =>
    if Text.isBlankChar c || (c = '/' && cs.head? ≠ some '>') then skipGap c cs else (prev, c :: cs)

theorem length_dropWhile_le {α : Type} (p : α → Bool) (cs : List α) :
    (cs.dropWhile p).length ≤ cs.length :=
  (List.dropWhile_suffix p).length_le

theorem skipGap_suffix (prev : Char) (cs : List Char) : (skipGap prev cs).2 <:+ cs := by
  induction cs generalizing prev with
  | nil => exact List.suffix_refl _
  | cons c cs ih =>
    rw [skipGap]
    split
    · exact (ih c).trans (List.suffix_cons c cs)
    · exact List.suffix_refl _

theorem length_skipGap_le (prev : Char) (cs : List Char) :
    (skipGap prev cs).2.length ≤ cs.length :=
  (skipGap_suffix prev cs).length_le

/-- The value that starts right here: the value as written without its quotes, the last character it
    takes up and the rest. A quote that is not closed starts no value: if it is `spaced` from the
    equals sign the value is empty, if the sign is `repeated` the last sign starts the value, and
    otherwise there is none. -/
def valueFrom? (spaced repeated : Bool) (cs : List Char) : Option (List Char × Char × List Char) :=
  match cs with
  | [] => some ([], '=', [])
  | c :: inner =>
    if isQuote c then
      if inner.contains c then
        some (inner.takeWhile (· ≠ c), c, (inner.dropWhile (· ≠ c)).drop 1)
      else if spaced then some ([], ' ', cs)
      else if repeated then
        some ('=' :: cs.takeWhile isBareValueChar, '=', cs.dropWhile isBareValueChar)
      else none
    else some (cs.takeWhile isBareValueChar, '=', cs.dropWhile isBareValueChar)

/-- The value after the name of an attribute. There is none without an equals sign. -/
def writtenValue? (cs : List Char) : Option (List Char × Char × List Char) :=
  match Text.trimStart cs with
  | '=' :: afterSign =>
    let afterSigns := afterSign.dropWhile (· = '=')
    valueFrom? (afterSigns.head?.any Text.isBlankChar) (afterSign.head? = some '=')
      (Text.trimStart afterSigns)
  | _ => none

theorem trimStart_suffix (cs : List Char) : Text.trimStart cs <:+ cs := List.dropWhile_suffix _

theorem suffix_of_valueFrom {spaced repeated : Bool} {cs value rest : List Char} {last : Char}
    (h : valueFrom? spaced repeated cs = some (value, last, rest)) : rest <:+ cs := by
  have hbare : cs.dropWhile isBareValueChar <:+ cs := List.dropWhile_suffix _
  unfold valueFrom? at h
  split at h
  · cases h
    exact List.suffix_refl _
  · next c inner =>
    split at h
    · split at h
      · cases h
        exact ((List.drop_suffix 1 _).trans (List.dropWhile_suffix _)).trans (List.suffix_cons _ inner)
      · split at h
        · cases h
          exact List.suffix_refl _
        · split at h
          · cases h
            exact hbare
          · cases h
    · cases h
      exact hbare

theorem suffix_of_writtenValue {cs value rest : List Char} {last : Char}
    (h : writtenValue? cs = some (value, last, rest)) : rest <:+ cs := by
  unfold writtenValue? at h
  split at h
  · next afterSign heq =>
    have hsign : '=' :: afterSign <:+ cs := by
      rw [← heq]
      exact trimStart_suffix cs
    have hvalue : Text.trimStart (afterSign.dropWhile (· = '=')) <:+ afterSign :=
      (trimStart_suffix _).trans (List.dropWhile_suffix _)
    exact ((suffix_of_valueFrom h).trans hvalue).trans ((List.suffix_cons '=' afterSign).trans hsign)
  · cases h

theorem length_of_writtenValue {cs value rest : List Char} {last : Char}
    (h : writtenValue? cs = some (value, last, rest)) : rest.length ≤ cs.length :=
  (suffix_of_writtenValue h).length_le

/-- An attribute as written, its value not yet decoded. -/
structure WrittenAttribute where
  name : List Char
  value : Option (List Char)

/-- The attributes at the start of `cs` and what follows them; `prev` is the character before. -/
def writtenAttributes (prev : Char) (cs : List Char) : List WrittenAttribute × List Char :=
  match cs with
  | [] => ([], [])
  | c :: tail =>
    if startsAttribute prev c then
      let name := c :: tail.takeWhile isAttributeNameChar
      match _h : writtenValue? (tail.dropWhile isAttributeNameChar) with
      | none =>
        let gap := skipGap (name.getLastD prev) (tail.dropWhile isAttributeNameChar)
        let more := writtenAttributes gap.1 gap.2
        (⟨name, none⟩ :: more.1, more.2)
      | some (value, last, afterValue) =>
        let gap := skipGap last afterValue
        let more := writtenAttributes gap.1 gap.2
        (⟨name, some value⟩ :: more.1, more.2)
    else ([], c :: tail)
termination_by cs.length
decreasing_by
  · have h₁ := length_dropWhile_le isAttributeNameChar tail
    exact Nat.lt_succ_of_le (Nat.le_trans (length_skipGap_le _ _) h₁)
  · have h₁ := length_dropWhile_le isAttributeNameChar tail
    have h₂ := length_of_writtenValue ‹_›
    exact Nat.lt_succ_of_le (Nat.le_trans (length_skipGap_le _ _) (Nat.le_trans h₂ h₁))

/-- How reading a start tag ends. -/
inductive StartTag where
  /-- A tag with its name, its attributes and whether a slash closes it. -/
  | tag (name : String) (attrs : List Attribute) (selfClosing : Bool) (rest : List Char)
  /-- Characters that are no tag after all; they count as text. -/
  | junk (rest : List Char)
  /-- The text ends before the tag does, or right before an attribute value. -/
  | unfinished

/-- The characters of `cs` before its ending `rest`. -/
def before (cs rest : List Char) : List Char := cs.take (cs.length - rest.length)

/-- The attributes of a list whose names did not occur before, each at its first place. -/
def firstOfEachName : List Attribute → List Attribute
  | [] => []
  | a :: rest => a :: (firstOfEachName rest).filter fun b => b.name ≠ a.name

/-- An attribute with its name in lower case and its value decoded; an absent value is empty. -/
def WrittenAttribute.decode (a : WrittenAttribute) : Except Number.DigitLimit Attribute := do
  let value ← decodeValue (a.value.getD [])
  return ⟨.ofList (Unicode.lower a.name), .ofList value⟩

/-- Reads a start tag from the characters after its opening bracket. -/
def startTag (cs : List Char) : Except Number.DigitLimit StartTag :=
  let name := cs.takeWhile fun c => !endsTagName c
  let gap := skipGap (name.getLastD '<') (cs.dropWhile fun c => !endsTagName c)
  let (written, rest) := writtenAttributes gap.1 gap.2
  match rest with
  | [] => .ok .unfinished
  | c :: after =>
    if isAsciiLetter c || c = '=' || (c = '/' && after.head? ≠ some '>') then .ok .unfinished
    else do
      let attrs ← written.mapM WrittenAttribute.decode
      let tag := String.ofList (Unicode.lower name)
      match c, after with
      | '>', _ => return .tag tag (firstOfEachName attrs) false after
      | '/', '>' :: after => return .tag tag (firstOfEachName attrs) true after
      | _, _ => return .junk rest

end MarkupCleaner.Markup
