import MarkupCleaner.Pattern.Group

/-!
# Compiling a pattern

A text as a pattern ready to be matched, or the reason why it is none. Items are read one by one;
what opens and closes a group is kept on a stack, so that reading is a single loop over the lexemes.
-/

namespace MarkupCleaner

/-- A pattern that has been read: its expression and the width of it, the flags for all of it, the
    number of its groups and the names of some of them. -/
structure CompiledPattern where
  pattern : Pattern
  width : Pattern.Width
  flags : Flags
  groupCount : Nat
  names : List (List Char × Nat)
deriving DecidableEq, Repr

namespace Pattern

/-- A bound of a repetition. -/
def repetitionBound (digits : List Char) : Reading Nat :=
  match Number.whole digits with
  | .error limit => throw (.tooManyDigits limit)
  | .ok n => if repetitionLimit ≤ n then throw .repetitionTooLarge else return n

/-- Reads the bounds of a repetition after their opening brace, or nothing at all if there are none:
    then the brace stands for itself. -/
def takeBounds : Reading (Option (Nat × Option Nat)) := do
  let before ← get
  if (← peek) = some (.plain '\x7d') then return none
  let low ← takeAll isDigit
  let comma ← accept ','
  let high ← if comma then takeAll isDigit else pure low
  if !(← accept '\x7d') then
    modify fun _ => before
    return none
  let least ← if low.isEmpty then pure 0 else repetitionBound low
  if high.isEmpty then return some (least, none)
  let most ← repetitionBound high
  if most < least then refuse .leastAboveMost before.place
  return some (least, some most)

/-- Reads the mark after the operator of a repetition that tells how often it tries to go on. There is one
    such mark at most. -/
def takeGreed : Reading Greed := do
  if ← accept '?' then return .lazy
  else if ← accept '+' then return .possessive
  else return .greedy

/-- Repeats the last item that was read; the operator is at `place`. -/
def repeatLast (place : Nat) (least : Nat) (most : Option Nat) : Reading Unit := do
  let f := (← get).frame
  match f.items with
  | [] => refuse .nothingToRepeat place
  | .anchor _ :: _ => refuse .nothingToRepeat place
  | .repeated .. :: _ => refuse .repeatedRepetition place
  | item :: items =>
    let greed ← takeGreed
    modify fun r =>
      { r with frame := { f with items := .repeated greed least most (contents item) :: items } }

/-- A blank that is skipped where blanks and comments are. -/
def isSkippedBlank (c : Char) : Bool :=
  c = ' ' || c = '\t' || c = '\n' || c = '\r' || c = '\x0b' || c = '\x0c'

/-- Skips a comment up to the end of its line. -/
def skipLine : Reading Unit := do
  let run := (← get).left.takeWhile (· ≠ .plain '\n')
  let _ ← take run.length
  let _ ← next
  return

/-- Reads what one lexeme starts; it has been taken and was at `place`. -/
def takeItem (place : Nat) (lexeme : Lexeme) : Reading Unit := do
  let verbose := (← get).frame.verbose
  match lexeme with
  | .escaped c => push (← takeEscape place c)
  | .plain c =>
    if verbose && isSkippedBlank c then return
    else if verbose && c = '#' then skipLine
    else
      match c with
      | '[' => push (← takeSet place)
      | '?' => repeatLast place 0 (some 1)
      | '*' => repeatLast place 0 none
      | '+' => repeatLast place 1 none
      | '\x7b' =>
        match ← takeBounds with
        | none => push (.literal c.toNat)
        | some (least, most) => repeatLast place least most
      | '.' => push .any
      | '(' => enterGroup place
      | '^' => push (.anchor .lineStart)
      | '$' => push (.anchor .lineEnd)
      | c => push (.literal c.toNat)

/-- Reads items until the pattern ends or a parenthesis closes what was never opened. -/
def takeItems : Nat → Reading Unit
  | 0 => return
  | fuel + 1 => do
    let r ← get
    match r.left.head?, r.inner, r.frame.opening with
    | none, _, _ => return
    | some (.plain '|'), _, _ =>
      startAlternative r.place
      takeItems fuel
    | some (.plain ')'), outer :: outers, some opening =>
      leaveGroup opening outer outers
      takeItems fuel
    | some (.plain ')'), _, _ => return
    | some lexeme, _, _ =>
      let _ ← next
      takeItem r.place lexeme
      takeItems fuel

/-- The first thing in an expression that cannot be carried out: a lookbehind without a fixed width,
    or, under the template flag, a repetition. -/
def unfit? (template : Bool) : Pattern → Option Cause
  | seq p q | alt p q => (p.unfit? template).or (q.unfit? template)
  | group _ p | flagged _ _ p | atomic p | lookahead _ p => p.unfit? template
  | repeated greed _ _ p =>
    if template then
      some (.templateRepetition
        (match greed with
        | .greedy => "MAX_REPEAT"
        | .lazy => "MIN_REPEAT"
        | .possessive => "POSSESSIVE_REPEAT"))
    else p.unfit? template
  | lookbehind _ width p =>
    if width.least ≠ width.greatest then some .lookbehindWidth else p.unfit? template
  | conditional _ yes no => (yes.unfit? template).or (no.unfit? template)
  | empty | literal _ | notLiteral _ | any | set .. | anchor _ | backreference _ => none

/-- The least width that a lookbehind cannot have. -/
def lookbehindLimit : Nat := Nat.pow 2 31

/-- Whether a lookbehind looks back too far. -/
def looksTooFarBack : Pattern → Bool
  | seq p q | alt p q => p.looksTooFarBack || q.looksTooFarBack
  | group _ p | flagged _ _ p | atomic p | lookahead _ p | repeated _ _ _ p => p.looksTooFarBack
  | lookbehind _ width p => lookbehindLimit ≤ width.least || p.looksTooFarBack
  | conditional _ yes no => yes.looksTooFarBack || no.looksTooFarBack
  | empty | literal _ | notLiteral _ | any | set .. | anchor _ | backreference _ => false

/-- Reads a whole pattern. -/
def takePattern : Reading CompiledPattern := do
  let start ← get
  if start.dangling && start.left.isEmpty then refuse .danglingEscape 0
  takeItems (start.left.length + 1)
  let r ← get
  if !r.inner.isEmpty then refuse .unterminatedGroup r.frame.start
  if r.flags.on .ascii && r.flags.on .unicode then throw .conflictingFlags
  if !r.left.isEmpty then refuse .unbalancedParenthesis r.place
  match r.references.find? fun reference => r.widths.length < reference.1 with
  | some (number, place) => refuse (.invalidGroup number) place
  | none => pure ()
  let pattern := r.frame.body
  match pattern.unfit? (r.flags.on .template) with
  | some cause => throw (.malformed cause none)
  | none =>
    if pattern.looksTooFarBack then throw .lookbehindTooFar
    return ⟨pattern, pattern.width r.groupWidth, r.flags, r.widths.length, r.names⟩

/-- Reads a text as a pattern. -/
def compile (text : List Char) : Except Fault CompiledPattern :=
  let (left, dangling) := lexemes text
  let frame : Frame := { opening := none, start := 0, verbose := false }
  (takePattern.run { left, place := 0, dangling, frame }).map Prod.fst

end Pattern
end MarkupCleaner
