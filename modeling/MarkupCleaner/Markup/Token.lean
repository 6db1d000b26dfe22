import MarkupCleaner.Markup.Error
import MarkupCleaner.Markup.StartTag
import MarkupCleaner.Text.Split
import MarkupCleaner.Unicode.Caseless

/-!
# Tokens

Markup as a sequence of tokens. The tokenizer goes over the text once as if more text could follow;
from where it has to wait for more it goes on knowing the end. Nothing but text, tags, comments,
sections and declarations comes out: what looks like a tag and is none counts as text.
-/

namespace MarkupCleaner.Markup

/-- What is recognised and leaves no node in the tree. -/
inductive Ignored where
  | doctype
  | processingInstruction
  | declaration
deriving DecidableEq, Repr

/-- The name of a kind of node that is left out. -/
def Ignored.name : Ignored → String
  | doctype => "Doctype"
  | processingInstruction => "ProcessingInstruction"
  | declaration => "Declaration"

/-- A token of markup. -/
inductive Token where
  | text (cs : List Char)
  | opening (tag : String) (attrs : List Attribute)
  | selfClosing (tag : String) (attrs : List Attribute)
  | closing (tag : String)
  | comment (cs : List Char)
  | characterData (cs : List Char)
  | ignored (kind : Ignored)
deriving DecidableEq, Repr

/-- What the tokenizer is reading: markup, or the raw text of an element up to its end tag. -/
inductive Mode where
  | markup
  | rawText (tag : String)
deriving DecidableEq, Repr

/-- The elements whose content is raw text. -/
def isRawTextElement (tag : String) : Bool := tag = "script" || tag = "style"

/-- The first place where `mark?` applies: the characters before it and what `mark?` leaves. -/
def search? (mark? : List Char → Option (List Char)) :
    List Char → Option (List Char × List Char)
  | [] => none
  | c :: cs =>
    match mark? (c :: cs) with
    | some rest => some ([], rest)
    | none => (search? mark? cs).map fun found => (c :: found.1, found.2)

/-- A closing bracket. -/
def bracket? : List Char → Option (List Char)
  | '>' :: rest => some rest
  | _ => none

/-- The end of a comment: two hyphens, blanks, a closing bracket. -/
def commentEnd? : List Char → Option (List Char)
  | '-' :: '-' :: cs => bracket? (Text.trimStart cs)
  | _ => none

/-- The end of a conditional section: a square bracket, blanks, a closing bracket. -/
def conditionalEnd? : List Char → Option (List Char)
  | ']' :: cs => bracket? (Text.trimStart cs)
  | _ => none

/-- The end of a marked section: two square brackets and a closing bracket, blanks between them. -/
def sectionEnd? : List Char → Option (List Char)
  | ']' :: cs => conditionalEnd? (Text.trimStart cs)
  | _ => none

/-- The end tag of an element of raw text, in any case. -/
def rawTextEnd? (tag : String) : List Char → Option (List Char)
  | '<' :: '/' :: cs =>
    match Unicode.afterCaseless? tag.toList (Text.trimStart cs) with
    | some rest => bracket? (Text.trimStart rest)
    | none => none
  | _ => none

/-- A character of the name of an end tag after its first letter. -/
def isEndNameChar (c : Char) : Bool :=
  isAsciiLetter c || isAsciiDigit c || c = '-' || c = '.' || c = ':' || c = '_'

/-- The name of an end tag that holds nothing but its name, from the characters after `</`. -/
def endTagName? (cs : List Char) : Option (List Char) :=
  match Text.trimStart cs with
  | [] => none
  | c :: tail =>
    if isAsciiLetter c then
      (bracket? (Text.trimStart (tail.dropWhile isEndNameChar))).map fun _ =>
        c :: tail.takeWhile isEndNameChar
    else none

/-- What a construct of markup yields: its tokens, the mode after it and the rest. -/
structure Scanned where
  tokens : List Token
  mode : Mode
  rest : List Char

/-- A token that leaves the mode as it is. -/
def Scanned.plain (mode : Mode) (token : Token) (rest : List Char) : Scanned :=
  ⟨[token], mode, rest⟩

/-- Reads an end tag from the characters after `</`. Inside raw text only the end tag of the element
    counts. -/
def endTag (mode : Mode) (cs : List Char) : Option Scanned := do
  let (body, rest) ← search? bracket? cs
  let asText := Scanned.plain mode (.text ('<' :: '/' :: body ++ ['>'])) rest
  match endTagName? cs, mode with
  | some name, .markup => return .plain .markup (.closing (.ofList (Unicode.lower name))) rest
  | some name, .rawText tag =>
    let closed := String.ofList (Unicode.lower name)
    return if closed = tag then .plain .markup (.closing closed) rest else asText
  | none, .rawText _ => return asText
  | none, .markup =>
    match body with
    | [] => return ⟨[], mode, rest⟩
    | c :: _ =>
      if isAsciiLetter c then
        let name := body.takeWhile fun d => !endsTagName d
        return .plain mode (.closing (.ofList (Unicode.lower name))) rest
      else return .plain mode (.comment body) rest

/-- The kinds of marked sections that end with two square brackets. -/
def markedSections : List (List Char) :=
  ["temp".toList, "cdata".toList, "ignore".toList, "include".toList, "rcdata".toList]

/-- The kinds of conditional sections. -/
def conditionalSections : List (List Char) := ["if".toList, "else".toList, "endif".toList]

/-- A character of the name of a section after its first letter. -/
def isSectionNameChar (c : Char) : Bool :=
  isAsciiLetter c || isAsciiDigit c || c = '-' || c = '_' || c = '.'

/-- The token of a marked section: character data, or a declaration that is ignored. -/
def sectionToken (data : List Char) : Token :=
  match Unicode.afterCaseless? "cdata[".toList data with
  | some text => .characterData text
  | none => .ignored .declaration

/-- Reads a marked section from the characters after `<![`. -/
def markedSection (mode : Mode) (cs : List Char) : Except ParseError (Option Scanned) :=
  match cs with
  | [] => .ok none
  | c :: tail =>
    if isAsciiLetter c then
      let name := c :: tail.takeWhile isSectionNameChar
      let afterName := tail.dropWhile isSectionNameChar
      let blanks := afterName.takeWhile Text.isBlankChar
      if afterName.length ≤ blanks.length then .ok none
      else
        let kind := Unicode.lower name
        if kind ∈ markedSections then
          .ok ((search? sectionEnd? cs).map fun f => .plain mode (sectionToken f.1) f.2)
        else if kind ∈ conditionalSections then
          .ok ((search? conditionalEnd? cs).map fun f => .plain mode (sectionToken f.1) f.2)
        else .error (.unknownSection (name ++ blanks))
    else .error (.sectionNameExpected ((['<', '!', '['] ++ cs).take 20))

/-- Reads a declaration from the characters after `<!`: a marked section, a document type, or a
    comment in disguise. -/
def declaration (mode : Mode) (cs : List Char) : Except ParseError (Option Scanned) :=
  match cs with
  | '[' :: section_ => markedSection mode section_
  | _ =>
    if Unicode.lower (cs.take 7) = "doctype".toList then
      .ok ((search? bracket? (cs.drop 7)).map fun f => .plain mode (.ignored .doctype) f.2)
    else .ok ((search? bracket? cs).map fun f => .plain mode (.comment f.1) f.2)

/-- Reads what an opening bracket starts, from the characters after it; `none` if the text ends
    before it does. -/
def construct (mode : Mode) (cs : List Char) : Except ParseError (Option Scanned) :=
  match cs with
  | [] => .ok none
  | '/' :: body => .ok (endTag mode body)
  | '!' :: '-' :: '-' :: body =>
    .ok ((search? commentEnd? body).map fun f => .plain mode (.comment f.1) f.2)
  | '?' :: body =>
    .ok ((search? bracket? body).map fun f => .plain mode (.ignored .processingInstruction) f.2)
  | '!' :: body => declaration mode body
  | c :: _ =>
    if isAsciiLetter c then
      match startTag cs with
      | .error limit => .error (.tooManyDigits limit)
      | .ok .unfinished => .ok none
      | .ok (.junk rest) => .ok (some (.plain mode (.text ('<' :: before cs rest)) rest))
      | .ok (.tag tag attrs true rest) => .ok (some (.plain mode (.selfClosing tag attrs) rest))
      | .ok (.tag tag attrs false rest) =>
        let mode := if isRawTextElement tag then .rawText tag else mode
        .ok (some (.plain mode (.opening tag attrs) rest))
    else .ok (some (.plain mode (.text ['<']) cs))

/-- What counts as text when a construct does not end: everything through the next closing bracket,
    otherwise up to the next opening one, otherwise the bracket alone. The characters come after the
    opening bracket. -/
def unfinishedText (cs : List Char) : List Char × List Char :=
  match search? bracket? cs with
  | some (body, rest) => ('<' :: body ++ ['>'], rest)
  | none =>
    if cs.contains '<' then ('<' :: cs.takeWhile (· ≠ '<'), cs.dropWhile (· ≠ '<'))
    else (['<'], cs)

/-- A step of the tokenizer: it goes on with the rest, or stops before it. -/
inductive Step where
  | next (scanned : Scanned)
  | stop (tokens : List Token) (rest : List Char)

/-- Whether a numeric reference is written in base sixteen, and where its digits start. -/
def numberBase (cs : List Char) : Bool × List Char :=
  match cs with
  | 'x' :: rest | 'X' :: rest => (true, rest)
  | _ => (false, cs)

/-- A digit of a numeric reference. -/
def isNumberDigit (hex : Bool) (c : Char) : Bool :=
  if hex then Number.isHexDigit c else isAsciiDigit c

/-- A numeric reference from the characters after `&#`: its number and the rest. The character after
    the digits has to be there and must not be a digit in base sixteen; a semicolon is taken along. -/
def numericReference? (cs : List Char) : Option (Except Number.DigitLimit Nat × List Char) :=
  let (hex, start) := numberBase cs
  let digits := start.takeWhile (isNumberDigit hex)
  match start.dropWhile (isNumberDigit hex) with
  | [] => none
  | c :: rest =>
    if digits.isEmpty || Number.isHexDigit c then none
    else some (referenceNumber hex digits, if c = ';' then rest else c :: rest)

/-- A character of the name of a reference in text after its first letter. -/
def isNameChar (c : Char) : Bool := isAsciiLetter c || isAsciiDigit c || c = '-' || c = '.'

/-- A named reference from the characters after the ampersand: its name and the rest. The name goes as
    far as it can with one character left that is neither letter nor digit; a semicolon is taken
    along. -/
def namedReference? (cs : List Char) : Option (List Char × List Char) :=
  match cs with
  | [] => none
  | first :: tail =>
    if isAsciiLetter first then
      let run := tail.takeWhile isNameChar
      match tail.dropWhile isNameChar with
      | ';' :: rest => some (first :: run, rest)
      | c :: rest => some (first :: run, c :: rest)
      | [] =>
        let ending := (run.reverse.takeWhile fun c => !(c = '-' || c = '.')).length + 1
        if run.length < ending then none
        else some (first :: run.take (run.length - ending), run.drop (run.length - ending))
    else none

/-- The text of a named reference: the character, or the name as it stands. -/
def referenceText (name : List Char) : List Char := (namedText? name).getD ('&' :: name)

/-- Reads what an ampersand starts, from the characters after it. A reference that may still go on
    stops the tokenizer. -/
def reference (atEnd : Bool) (cs : List Char) : Except ParseError Step :=
  match cs with
  | '#' :: body =>
    match numericReference? body with
    | some (.ok number, rest) => .ok (.next (.plain .markup (.text (numberText number)) rest))
    | some (.error limit, _) => .error (.tooManyDigits limit)
    | none =>
      if body.contains ';' then .ok (.stop [.text ['&', '#']] body) else .ok (.stop [] ('&' :: cs))
  | _ =>
    match namedReference? cs with
    | some (name, rest) => .ok (.next (.plain .markup (.text (referenceText name)) rest))
    | none =>
      match cs with
      | [] => .ok (.stop [] ['&'])
      | c :: tail =>
        if isAsciiLetter c then
          .ok (.stop [] (if atEnd && tail.isEmpty then cs else '&' :: cs))
        else .ok (.next (.plain .markup (.text ['&']) cs))

/-- Reads what an opening bracket starts, and decides what to do if it does not end. -/
def bracketed (atEnd : Bool) (mode : Mode) (cs : List Char) : Except ParseError Step := do
  match ← construct mode cs with
  | some scanned => return .next scanned
  | none =>
    if atEnd && !cs.isEmpty then
      let (text, rest) := unfinishedText cs
      return .next (.plain mode (.text text) rest)
    else return .stop [] ('<' :: cs)

/-- A character of plain text. -/
def isPlainChar (c : Char) : Bool := !(c = '&' || c = '<')

/-- One step of the tokenizer on a text that is not empty. -/
def step (atEnd : Bool) (mode : Mode) (cs : List Char) : Except ParseError Step :=
  match mode with
  | .rawText tag =>
    match search? (rawTextEnd? tag) cs with
    | none => .ok (.stop [] cs)
    | some ([], _) => bracketed atEnd mode (cs.drop 1)
    | some (data, _) => .ok (.next (.plain mode (.text data) (cs.drop data.length)))
  | .markup =>
    match cs with
    | [] => .ok (.stop [] [])
    | c :: tail =>
      if c = '<' then bracketed atEnd mode tail
      else if c = '&' then reference atEnd tail
      else
        .ok (.next (.plain mode (.text (c :: tail.takeWhile isPlainChar))
          (tail.dropWhile isPlainChar)))

end MarkupCleaner.Markup
