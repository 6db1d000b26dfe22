import MarkupCleaner.Pattern.Escape

/-!
# Groups and flags

Reading what opens a group, and closing a group again.
-/

namespace MarkupCleaner.Pattern

/-- The flag of a letter. -/
def flag? (c : Char) : Option Flag :=
  match c with
  | 'i' => some .ignoreCase
  | 'L' => some .locale
  | 'm' => some .multiline
  | 's' => some .dotAll
  | 'x' => some .verbose
  | 'a' => some .ascii
  | 't' => some .template
  | 'u' => some .unicode
  | _ => none

/-- Refuses a lexeme where a flag or `otherwise` is expected. -/
def refuseFlag {α : Type} (lexeme : Lexeme) (otherwise : Cause) : Reading α := do
  let place := (← here) - lexeme.text.length
  refuse (if lexeme.isPlain Unicode.isLetter then .unknownFlag else otherwise) place

/-- Reads the flags that a group adds, from the letter `c` on, and the character that ends them. -/
def takeAdded (added : Flags) (c : Char) : Nat → Reading (Flags × Char)
  | 0 => do refuse .flagsNotClosed (← here)
  | fuel + 1 => do
    match flag? c with
    | none => refuseFlag (.plain c) .flagsNotClosed
    | some flag =>
      if flag = .locale then refuse .localeFlag (← here)
      if Flags.choosesClasses flag && added.any (fun f => Flags.choosesClasses f && f ≠ flag) then
        refuse .incompatibleFlags (← here)
      match ← next with
      | none => refuse .flagsNotClosed (← here)
      | some (.escaped d) => refuseFlag (.escaped d) .flagsNotClosed
      | some (.plain d) =>
        if d = ')' || d = '-' || d = ':' then return (added ++ [flag], d)
        else takeAdded (added ++ [flag]) d fuel

/-- Reads the flags that a group clears, from the letter `c` on, and the colon after them. -/
def takeRemoved (removed : Flags) (c : Char) : Nat → Reading Flags
  | 0 => do refuse .colonExpected (← here)
  | fuel + 1 => do
    match flag? c with
    | none => refuseFlag (.plain c) (if removed.isEmpty then .missingFlag else .colonExpected)
    | some flag =>
      if Flags.choosesClasses flag then refuse .flagNotRemovable (← here)
      match ← next with
      | none => refuse .colonExpected (← here)
      | some (.escaped d) => refuseFlag (.escaped d) .colonExpected
      | some (.plain d) =>
        if d = ':' then return removed ++ [flag] else takeRemoved (removed ++ [flag]) d fuel

/-- The flags of a group: for the whole pattern, or added and cleared inside the group. -/
inductive GroupFlags where
  | global (added : Flags)
  | within (added removed : Flags)

/-- Reads the flags of a group from their first character on. -/
def takeFlags (first : Char) : Reading GroupFlags := do
  let fuel := (← get).left.length + 1
  let (added, ending) ← if first = '-' then pure ([], '-') else takeAdded [] first fuel
  if ending = ')' then return .global added
  if added.contains .template then refuse (.flagNotScoped true) ((← here) - 1)
  let removed ←
    if ending = '-' then
      match ← next with
      | none => refuse .missingFlag (← here)
      | some (.escaped c) => refuseFlag (.escaped c) .missingFlag
      | some (.plain c) => takeRemoved [] c fuel
    else pure []
  if removed.contains .template then refuse (.flagNotScoped false) ((← here) - 1)
  if added.any removed.contains then refuse .flagAddedAndRemoved ((← here) - 1)
  return .within added removed

/-- Reads on inside a new group. -/
def enter (opening : Opening) (start : Nat) (verbose : Bool) : Reading Unit :=
  modify fun r =>
    { r with inner := r.frame :: r.inner, frame := { opening := some opening, start, verbose } }

/-- Opens a group that captures what it matches, perhaps under a name. -/
def enterCapture (start : Nat) (name : Option (List Char)) : Reading Unit := do
  let r ← get
  let number := r.widths.length + 1
  match name with
  | none => pure ()
  | some name =>
    match r.names.lookup name with
    | some old => refuse (.groupRedefined name number old) (r.place - (name.length + 1))
    | none => modify fun r => { r with names := r.names ++ [(name, number)] }
  modify fun r => { r with widths := r.widths ++ [none] }
  enter (.capture number) start r.frame.verbose

/-- Reads a name up to its terminator; it has to be an identifier. -/
def takeIdentifier (terminator : Char) : Reading (List Char) := do
  let name ← takeName terminator "group name"
  if !Unicode.isIdentifier name then
    refuse (.badGroupName name) ((← here) - (name.length + 1))
  return name

/-- Reads a reference to a group by its name. -/
def takeNamedReference : Reading Pattern := do
  let name ← takeIdentifier ')'
  let r ← get
  let place := r.place - (name.length + 1)
  match r.names.lookup name with
  | none => refuse (.unknownGroupName name) place
  | some number =>
    if !r.isClosed number then refuse .openGroup place
    checkBehind number
    return .backreference number

/-- The whole number that a text stands for, if it is one and is not negative. Blanks around it, a sign
    and single underscores between its digits are allowed. -/
def groupNumber? (text : List Char) : Option Nat :=
  let trimmed := Text.trim text
  let (negative, unsigned) :=
    match trimmed with
    | '-' :: rest => (true, rest)
    | '+' :: rest => (false, rest)
    | rest => (false, rest)
  let parts := Text.pieces (· = '_') unsigned
  if !parts.all fun part => !part.isEmpty && part.all Unicode.isDecimal then none
  else
    match Number.whole parts.flatten with
    | .error _ => none
    | .ok number => if negative && number ≠ 0 then none else some number

/-- The greatest number a group may have. -/
def maxGroup : Nat := 1073741823

/-- Reads the condition of a conditional: the name or the number of a group. -/
def takeCondition : Reading Nat := do
  let name ← takeName ')' "group name"
  let r ← get
  let place := r.place - (name.length + 1)
  let number ←
    if Unicode.isIdentifier name then
      match r.names.lookup name with
      | some number => pure number
      | none => refuse (.unknownGroupName name) place
    else
      match groupNumber? name with
      | none => refuse (.badGroupName name) place
      | some number =>
        if number = 0 then refuse .groupZero place
        if maxGroup ≤ number then refuse (.invalidGroup number) place
        modify fun r => { r with references := r.references ++ [(number, place)] }
        pure number
  checkBehind number
  return number

/-- Skips a comment that started at `start`. -/
def skipComment (start : Nat) : Reading Unit := do
  let run := (← get).left.takeWhile (· ≠ .plain ')')
  let _ ← take run.length
  match ← next with
  | none => refuse .unterminatedComment start
  | some _ => return

/-- Refuses an extension of groups that does not exist. -/
def refuseExtension {α : Type} (start : Nat) (lead : List Char) (lexeme : Lexeme) : Reading α :=
  refuse (.unknownExtension (lead ++ lexeme.text)) (start + 1)

/-- Takes the next lexeme of an opening, which has to be there. -/
def nextOfOpening : Reading Lexeme := do
  match ← next with
  | none => refuse .unexpectedEnd (← here)
  | some lexeme => return lexeme

/-- Reads what follows `(?P`. -/
def enterNamed (start : Nat) : Reading Unit := do
  if ← accept '<' then enterCapture start (some (← takeIdentifier '>'))
  else if ← accept '=' then push (← takeNamedReference)
  else refuseExtension start ['?', 'P'] (← nextOfOpening)

/-- Reads what follows `(?<`: a lookbehind. -/
def enterLookbehind (start : Nat) : Reading Unit := do
  let lexeme ← nextOfOpening
  if lexeme = .plain '=' || lexeme = .plain '!' then
    let r ← get
    if r.behind.isNone then modify fun r => { r with behind := some r.widths.length }
    enter (.lookbehind (lexeme = .plain '!') r.behind.isNone) start r.frame.verbose
  else refuseExtension start ['?', '<'] lexeme

/-- Applies flags: at the very start they hold for the whole pattern, otherwise inside the group. -/
def enterFlagged (start : Nat) (flags : GroupFlags) : Reading Unit := do
  let r ← get
  match flags with
  | .global added =>
    let isStart := r.inner.isEmpty && r.frame.alternatives.isEmpty && r.frame.items.isEmpty
    if !isStart then refuse .misplacedFlags start
    modify fun r =>
      { r with
        flags := r.flags ++ added
        frame := { r.frame with verbose := Flags.on (r.flags ++ added) .verbose } }
  | .within added removed =>
    let verbose := (r.frame.verbose || Flags.on added .verbose) && !Flags.on removed .verbose
    enter (.flagged added removed) start verbose

/-- Reads what opens a group after its parenthesis, which is at `start`. -/
def enterGroup (start : Nat) : Reading Unit := do
  if !(← accept '?') then enterCapture start none
  else
    let verbose := (← get).frame.verbose
    let lexeme ← nextOfOpening
    match lexeme with
    | .escaped _ => refuseExtension start ['?'] lexeme
    | .plain c =>
      match c with
      | 'P' => enterNamed start
      | ':' => enter (.flagged [] []) start verbose
      | '#' => skipComment start
      | '=' => enter (.lookahead false) start verbose
      | '!' => enter (.lookahead true) start verbose
      | '<' => enterLookbehind start
      | '(' => enter (.conditional (← takeCondition)) start verbose
      | '>' => enter .atomic start verbose
      | c =>
        if (flag? c).isSome || c = '-' then enterFlagged start (← takeFlags c)
        else refuseExtension start ['?'] lexeme

/-- The items of the alternative that is being read, in order. -/
def Frame.branch (f : Frame) : List Pattern := unwrapped f.items.reverse

/-- The alternatives of a group, in order. -/
def Frame.branches (f : Frame) : List (List Pattern) := (f.branch :: f.alternatives).reverse

/-- What has been read of a group. -/
def Frame.body (f : Frame) : Pattern := ofItems (ofBranches f.branches)

/-- Starts the next alternative of the group that is being read. A conditional has at most two. -/
def startAlternative (place : Nat) : Reading Unit := do
  let f := (← get).frame
  match f.opening with
  | some (.conditional _) => if !f.alternatives.isEmpty then refuse .thirdBranch place
  | _ => pure ()
  let _ ← next
  modify fun r =>
    { r with frame := { f with alternatives := f.branch :: f.alternatives, items := [] } }

/-- Closes the group that is being read and adds it to the group around it. -/
def leaveGroup (opening : Opening) (outer : Frame) (outers : List Frame) : Reading Unit := do
  let _ ← next
  let r ← get
  let body := r.frame.body
  let width := body.width r.groupWidth
  modify fun r => { r with frame := outer, inner := outers }
  match opening with
  | .capture number =>
    modify fun r => { r with widths := r.widths.set (number - 1) (some width) }
    push (.group number body)
  | .flagged added removed => push (.flagged added removed body)
  | .atomic => push (.atomic body)
  | .lookahead negated => push (.lookahead negated body)
  | .lookbehind negated outermost =>
    if outermost then modify fun r => { r with behind := none }
    push (.lookbehind negated width body)
  | .conditional number =>
    match r.frame.branches with
    | yes :: no :: _ => push (.conditional number (ofItems yes) (ofItems no))
    | _ => push (.conditional number body .empty)

end MarkupCleaner.Pattern
