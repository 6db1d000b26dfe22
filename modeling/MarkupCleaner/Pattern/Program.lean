import MarkupCleaner.Pattern.CharTest

/-!
# Matching programs

A pattern as a program: each step is followed by what comes after it, flags and groups have been
resolved, and groups have become marks that are set where they start and where they end. A repetition
of a single character is a span, all others are loops.
-/

namespace MarkupCleaner.Pattern

/-- A program. Every step but the last ones has the rest of the program in it. -/
inductive Program where
  /-- Succeeds. -/
  | done
  /-- Fails. -/
  | fail
  /-- Takes a character. -/
  | char (test : CharTest) (next : Program)
  /-- Goes on where a condition on the place holds. -/
  | anchor (kind : Anchor) (multiline ascii : Bool) (next : Program)
  /-- Sets a mark. -/
  | mark (index : Nat) (next : Program)
  /-- Tries one alternative and then the others, which are a choice or a failure. -/
  | choice (first others next : Program)
  /-- Takes characters that pass a test. -/
  | span (greed : Greed) (least : Nat) (most : Option Nat) (test : CharTest) (next : Program)
  /-- Runs its body repeatedly, as often or as rarely as possible. -/
  | loop (isLazy : Bool) (least : Nat) (most : Option Nat) (body next : Program)
  /-- Runs its body as often as possible and takes each run for good. -/
  | possess (least : Nat) (most : Option Nat) (body next : Program)
  /-- Runs its body and takes its first success for good. -/
  | atomic (body next : Program)
  /-- Goes on if the body succeeds, or does not, some characters further back. -/
  | look (negated : Bool) (back : Nat) (body next : Program)
  /-- Takes the text of a group. -/
  | backreference (folding : Folding) (number : Nat) (next : Program)
  /-- Goes on with one of two bodies. -/
  | conditional (number : Nat) (yes no next : Program)
deriving DecidableEq, Repr

/-- The index of the mark where a group starts. The mark where it ends is the next one. -/
def startMark (number : Nat) : Nat := 2 * (number - 1)

/-- The program of a pattern under the given flags, before `next`. -/
def program (flags : Flags) (next : Program) : Pattern → Program
  | empty => next
  | seq p q => p.program flags (q.program flags next)
  | alt p q =>
    let others :=
      match q with
      | alt .. => q.program flags .done
      | _ => .choice (q.program flags .done) .fail .done
    .choice (p.program flags .done) others next
  | anchor kind => .anchor kind (flags.on .multiline) (flags.on .ascii) next
  | group number p =>
    .mark (startMark number) (p.program flags (.mark (startMark number + 1) next))
  | flagged added removed p => p.program (flags.within added removed) next
  | atomic p => .atomic (p.program flags .done) next
  | repeated greed least most p =>
    match p.unitTest? flags with
    | some test => .span greed least most test next
    | none =>
      match greed with
      | .greedy => .loop false least most (p.program flags .done) next
      | .lazy => .loop true least most (p.program flags .done) next
      | .possessive => .possess least most (p.program flags .done) next
  | backreference number => .backreference (.ofFlags flags) number next
  | lookahead negated p => .look negated 0 (p.program flags .done) next
  | lookbehind negated width p => .look negated width.least (p.program flags .done) next
  | conditional number yes no =>
    .conditional number (yes.program flags .done) (no.program flags .done) next
  | literal code => .char (.ofLiteral flags false code) next
  | notLiteral code => .char (.ofLiteral flags true code) next
  | any => .char (if flags.on .dotAll then .any else .inLine) next
  | set negated members => .char (.ofMembers flags negated members) next

namespace Program

/-- The character that has to come next, if the first step takes one as it is; `beyond` is the one that
    has to come after the program. -/
def leading? (beyond : Option Nat) : Program → Option Nat
  | done => beyond
  | char test _ => test.exactly?
  | _ => none

end Program
end MarkupCleaner.Pattern
