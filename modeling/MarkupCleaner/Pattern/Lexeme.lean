import MarkupCleaner.Pattern.Basic
import MarkupCleaner.Pattern.Fault

/-!
# Reading a pattern

A pattern as a sequence of lexemes, each a single character or a backslash with the character after
it, and a reader that takes lexemes from the front. A backslash at the very end is noticed as soon as
the reader gets to it.
-/

namespace MarkupCleaner.Pattern

/-- A character, or a backslash with the character after it. -/
inductive Lexeme where
  | plain (c : Char)
  | escaped (c : Char)
deriving DecidableEq, Repr

/-- The characters of a lexeme. -/
def Lexeme.text : Lexeme → List Char
  | plain c => [c]
  | escaped c => ['\\', c]

/-- The characters of several lexemes. -/
def lexemeText (lexemes : List Lexeme) : List Char := lexemes.flatMap Lexeme.text

/-- Whether a lexeme is a single character that satisfies `p`. -/
def Lexeme.isPlain (p : Char → Bool) : Lexeme → Bool
  | plain c => p c
  | escaped _ => false

/-- The lexemes of a pattern, and whether a lone backslash is left at its end. -/
def lexemes : List Char → List Lexeme × Bool
  | [] => ([], false)
  | ['\\'] => ([], true)
  | '\\' :: c :: cs => (.escaped c :: (lexemes cs).1, (lexemes cs).2)
  | c :: cs => (.plain c :: (lexemes cs).1, (lexemes cs).2)

/-- The kind of a group that has been opened. -/
inductive Opening where
  | capture (number : Nat)
  | flagged (added removed : Flags)
  | atomic
  | lookahead (negated : Bool)
  | lookbehind (negated outermost : Bool)
  | conditional (number : Nat)
deriving DecidableEq, Repr

/-- A group that is being read: where it starts, whether blanks and comments are skipped inside, the
    alternatives that are complete and the items of the last one, both with the last one first. The
    whole pattern is read as a group without an opening. -/
structure Frame where
  opening : Option Opening
  start : Nat
  verbose : Bool
  alternatives : List (List Pattern) := []
  items : List Pattern := []

/-- What the reader knows: what is left, and the flags, groups and names met so far. `widths` lists
    the groups in order, without a width as long as a group is open; `behind` is the number of groups
    before the lookbehind that is being read; `references` are the group numbers that conditions have
    named and their places. -/
structure Reader where
  left : List Lexeme
  place : Nat
  dangling : Bool
  flags : Flags := []
  widths : List (Option Width) := []
  names : List (List Char × Nat) := []
  behind : Option Nat := none
  references : List (Nat × Nat) := []
  inner : List Frame := []
  frame : Frame

/-- A step of reading: it can refuse the pattern. -/
abbrev Reading := StateT Reader (Except Fault)

/-- Refuses the pattern for a cause at a place. -/
def refuse {α : Type} (cause : Cause) (place : Nat) : Reading α :=
  throw (.malformed cause (some place))

/-- The place of the next lexeme. -/
def here : Reading Nat := return (← get).place

/-- The next lexeme, which stays. -/
def peek : Reading (Option Lexeme) := return (← get).left.head?

/-- Takes some lexemes. A lone backslash that comes next is refused. -/
def take (count : Nat) : Reading (List Lexeme) := do
  let r ← get
  let taken := r.left.take count
  let left := r.left.drop count
  let place := r.place + (lexemeText taken).length
  if r.dangling && left.isEmpty && !taken.isEmpty then refuse .danglingEscape place
  modify fun r => { r with left, place }
  return taken

/-- Takes the next lexeme. -/
def next : Reading (Option Lexeme) := return (← take 1).head?

/-- Takes the next lexeme if it is the character `c`, and tells whether it was. -/
def accept (c : Char) : Reading Bool := do
  if (← peek) = some (.plain c) then
    let _ ← next
    return true
  else return false

/-- Takes the single characters that satisfy `p`, at most `count`. -/
def takeChars (count : Nat) (p : Char → Bool) : Reading (List Char) := do
  let run := ((← get).left.take count).takeWhile (Lexeme.isPlain p)
  return lexemeText (← take run.length)

/-- Takes all single characters that satisfy `p`. -/
def takeAll (p : Char → Bool) : Reading (List Char) := do takeChars (← get).left.length p

/-- Takes a name up to its terminator, and the terminator. `kind` is what the name is of. -/
def takeName (terminator : Char) (kind : String) : Reading (List Char) := do
  let start ← here
  let run := (← get).left.takeWhile (· ≠ .plain terminator)
  let name := lexemeText (← take run.length)
  match ← next with
  | none =>
    if name.isEmpty then refuse (.missingName kind) (← here)
    else refuse (.unterminatedName terminator) start
  | some _ =>
    if name.isEmpty then refuse (.missingName kind) start
    return name

/-- Adds an item at the end of what is being read. -/
def push (item : Pattern) : Reading Unit :=
  modify fun r => { r with frame := { r.frame with items := item :: r.frame.items } }

/-- Whether a group is known and closed. -/
def Reader.isClosed (r : Reader) (number : Nat) : Bool :=
  match r.widths[number - 1]? with
  | some (some _) => number ≠ 0
  | _ => false

/-- The width of a group. -/
def Reader.groupWidth (r : Reader) (number : Nat) : Width :=
  match r.widths[number - 1]? with
  | some (some w) => w
  | _ => ⟨0, 0⟩

/-- Refuses, inside a lookbehind, a reference to a group that is open or belongs to the lookbehind. -/
def checkBehind (number : Nat) : Reading Unit := do
  let r ← get
  match r.behind with
  | none => return
  | some count =>
    if !r.isClosed number then refuse .openGroup r.place
    if count < number then refuse .groupInLookbehind r.place

end MarkupCleaner.Pattern
