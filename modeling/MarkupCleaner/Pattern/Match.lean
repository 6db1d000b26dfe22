import MarkupCleaner.Pattern.Compile
import MarkupCleaner.Pattern.Run

/-!
# Matches

Where a pattern matches a text first. A search starts at every place from which the text is long
enough, except that a pattern which starts with a known set of characters is tried only at those. That
set is taken under the flags for the whole pattern, even if the pattern sets others at its start.
-/

namespace MarkupCleaner

namespace Pattern

/-- A stretch of the text. The stretch of a whole match may end before it starts, and is empty then. -/
structure Span where
  start : Nat
  stop : Nat
deriving DecidableEq, Repr

/-- A match: the text, the stretch that matched and what the groups captured. -/
structure Match where
  text : List Char
  span : Span
  groups : List (Option Span)
deriving DecidableEq, Repr

namespace Match

/-- The text of a stretch. -/
def slice (m : Match) (span : Span) : List Char :=
  (m.text.drop span.start).take (span.stop - span.start)

/-- The text that matched. -/
def whole (m : Match) : List Char := m.slice m.span

/-- The text that a group captured, if it took part. Groups are numbered from one. -/
def group? (m : Match) (number : Nat) : Option (List Char) :=
  if number = 0 then none else (m.groups[number - 1]?.join).map m.slice

/-- The text before the match. -/
def before (m : Match) : List Char := m.text.take m.span.start

/-- The text after the match. -/
def after (m : Match) : List Char := m.text.drop m.span.stop

end Match

/-- The characters as they are that items start with, and whether the items are no more than
    these. -/
def literalLead (flags : Flags) : Pattern → List Nat × Bool
  | empty => ([], true)
  | literal code =>
    if (Folding.ofFlags flags).anyCased code code then ([], false) else ([code], true)
  | seq p q =>
    let (lead, isAll) := p.literalLead flags
    if isAll then
      let (more, isAll) := q.literalLead flags
      (lead ++ more, isAll)
    else (lead, false)
  | group _ p => p.literalLead flags
  | flagged added removed p => p.literalLead (flags.within added removed)
  | _ => ([], false)

/-- The character as it is that a pattern starts with, if it starts with one outside of groups. -/
def firstLiteral? (flags : Flags) : Pattern → Option Nat
  | literal code => if (Folding.ofFlags flags).anyCased code code then none else some code
  | seq p _ => p.firstLiteral? flags
  | _ => none

/-- The characters as they are that the alternatives start with, if each starts with one. -/
def firstLiterals? (flags : Flags) : Pattern → Option (List Nat)
  | alt p q => do return (← p.firstLiteral? flags) :: (← q.firstLiterals? flags)
  | p => (p.firstLiteral? flags).map fun code => [code]

/-- The set of characters that a pattern has to start with, if it is known: whether it is negated, and
    its members. -/
def startSet? (flags : Flags) : Pattern → Option (Bool × List Member)
  | seq p _ => p.startSet? flags
  | group _ p => p.startSet? flags
  | flagged added removed p => p.startSet? (flags.within added removed)
  | alt p q => ((alt p q).firstLiterals? flags).map fun codes => (false, codes.map .code)
  | set negated members =>
    let folding := Folding.ofFlags flags
    let isPlain : Member → Bool
      | .code value => !folding.anyCased value value
      | .range first last => folding = .exact || (last ≤ Member.lastFolded
          && !folding.anyCased first last)
      | .category .. => true
    if members.all isPlain then some (negated, members) else none
  | _ => none

/-- Where a search starts: at all places up to one, or at those characters that pass a test. -/
inductive Starts where
  | upTo (last : Nat)
  | testing (test : CharTest)
deriving DecidableEq, Repr

/-- Where a search for a pattern starts in a text of a length; nowhere if the text is too short. -/
def starts? (p : CompiledPattern) (length : Nat) : Option Starts :=
  let least := p.width.least
  if length < least then none
  else if least = 0 then some (.upTo length)
  else if !(p.pattern.literalLead p.flags).1.isEmpty then some (.upTo (length - 1))
  else
    match p.pattern.startSet? p.flags with
    | some (negated, members) => some (.testing (.set .exact (p.flags.on .ascii) negated members))
    | none => some (.upTo (length - (least - 1)))

/-- Whether a search starts at a place of a text. -/
def Starts.holds (text : Array Char) (p : Nat) : Starts → Bool
  | upTo last => p ≤ last
  | testing test => holdsAt text test p

/-- A search comes to a match in which a group ends before it starts. -/
structure BrokenGroup where
deriving DecidableEq, Repr

/-- The wording of the fault. -/
def BrokenGroup.message (_ : BrokenGroup) : String :=
  "The span of capturing group is wrong, please report a bug for the re module."

/-- The stretch that a group has captured according to a trace. -/
def Trace.group (t : Trace) (number : Nat) : Except BrokenGroup (Option Span) :=
  match t.span? number with
  | none => .ok none
  | some (start, stop) => if stop < start then .error ⟨⟩ else .ok (some ⟨start, stop⟩)

/-- The first of the places from `p` on, `left` of them, at which a program matches, and the trace. -/
def searchFrom (starts : Starts) (text : Array Char) (program : Program) :
    (left : Nat) → (p : Nat) → Option (Nat × Trace)
  | 0, _ => none
  | left + 1, p =>
    if starts.holds text p then
      match program.run text false none finish p { place := p } with
      | .matched t => some (p, t)
      | .failed _ => searchFrom starts text program left (p + 1)
    else searchFrom starts text program left (p + 1)

end Pattern

/-- The leftmost match of a pattern in a text, or the fault that there is one with a broken group. -/
def CompiledPattern.search? (p : CompiledPattern) (text : List Char) :
    Except Pattern.BrokenGroup (Option Pattern.Match) := do
  let chars := text.toArray
  let program := p.pattern.program p.flags .done
  match (Pattern.starts? p chars.size).bind fun starts =>
    Pattern.searchFrom starts chars program (chars.size + 1) 0 with
  | none => return none
  | some (start, trace) =>
    let groups ← (List.range' 1 p.groupCount).mapM trace.group
    return some { text, span := ⟨start, trace.place⟩, groups }

end MarkupCleaner
