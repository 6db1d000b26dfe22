import MarkupCleaner.Pattern.Program

/-!
# Running a program

How a program is matched with a text at a place. A step gets a continuation, which is what has to
match after it; it tries its possibilities in order and takes the first one with which the
continuation succeeds.

An attempt leaves a trace even if it fails. Marks that it has set stay where they were set before, and
are forgotten only if they are new; inside a loop all of them are restored. The place that was looked
at last stays as well, and a possessive repetition goes on from there once its body has failed.
-/

namespace MarkupCleaner.Pattern

/-- What matching has left so far: the marks up to the last one that is set, and the place that was
    looked at last. -/
structure Trace where
  marks : List (Option Nat) := []
  place : Nat
deriving DecidableEq, Repr

/-- How an attempt ends, and the trace that it leaves. -/
inductive Attempt where
  | matched (trace : Trace)
  | failed (trace : Trace)
deriving DecidableEq, Repr

/-- What is matched at a place, given the trace of what has been matched before. -/
abbrev Matcher := Nat → Trace → Attempt

/-- The end of everything: it succeeds at its place. -/
def finish : Matcher := fun p t => .matched { t with place := p }

namespace Trace

/-- The trace at a place. -/
def at_ (t : Trace) (p : Nat) : Trace := { t with place := p }

/-- The trace with a mark set at a place. Marks that are passed over are left open. -/
def setMark (t : Trace) (index p : Nat) : Trace :=
  if index < t.marks.length then { t with marks := t.marks.set index (some p) }
  else
    { t with marks := t.marks ++ List.replicate (index - t.marks.length) none ++ [some p] }

/-- The trace after an attempt that started from `saved` has failed. Inside a loop the marks are those
    from before; elsewhere the marks that were there keep what the attempt has made of them. -/
def afterFailure (t saved : Trace) (inLoop : Bool) : Trace :=
  { t with marks := if inLoop then saved.marks else t.marks.take saved.marks.length }

/-- Where a group has started and ended last, if it has done both. -/
def span? (t : Trace) (number : Nat) : Option (Nat × Nat) :=
  match t.marks[startMark number]?, t.marks[startMark number + 1]? with
  | some (some start), some (some stop) => some (start, stop)
  | _, _ => none

/-- Where a group has started and ended last, if it has done so in this order. -/
def captured? (t : Trace) (number : Nat) : Option (Nat × Nat) :=
  (t.span? number).filter fun (start, stop) => start ≤ stop

end Trace

namespace Attempt

/-- The attempt if it succeeds, or else what is tried from the trace that it leaves. -/
@[inline] def orElse (attempt : Attempt) (next : Trace → Attempt) : Attempt :=
  match attempt with
  | matched t => matched t
  | failed t => next t

/-- The attempt, which leaves its start as the place looked at last if it fails. -/
@[inline] def failingAt (attempt : Attempt) (p : Nat) : Attempt := attempt.orElse fun t => failed (t.at_ p)

end Attempt

/-- Whether a condition holds at a place. In an empty text there is neither an edge of a word nor a
    place inside one. -/
def Anchor.holds (multiline ascii : Bool) (text : Array Char) (p : Nat) : Anchor → Bool
  | lineStart => p = 0 || (multiline && before = some '\n')
  | lineEnd =>
    text.size ≤ p || (p + 1 = text.size && text[p]? = some '\n')
      || (multiline && text[p]? = some '\n')
  | textStart => p = 0
  | textEnd => text.size ≤ p
  | wordEdge => isEdge && !text.isEmpty
  | insideWord => !isEdge && !text.isEmpty
where
  /-- The character before the place. -/
  before : Option Char := if p = 0 then none else text[p - 1]?
  /-- Whether exactly one neighbour of the place is a character of a word. -/
  isEdge : Bool :=
    before.any (Category.word.holds ascii) != text[p]?.any (Category.word.holds ascii)

/-- Whether the character at a place passes a test. -/
def holdsAt (text : Array Char) (test : CharTest) (p : Nat) : Bool := text[p]?.any test.holds

/-- The number of characters in a row that pass a test, from a place on and at most `limit`, added to
    `count`. -/
def runLength (text : Array Char) (test : CharTest) (count : Nat) : (limit : Nat) → (p : Nat) → Nat
  | 0, _ => count
  | limit + 1, p =>
    if holdsAt text test p then runLength text test (count + 1) limit (p + 1) else count

/-- The number of characters that a span may take at a place. -/
def spanLimit (text : Array Char) (most : Option Nat) (p : Nat) : Nat :=
  match most with
  | none => text.size - p
  | some n => min n (text.size - p)

/-- The place that was looked at last after a span has taken `count` characters from `p` on: the
    members of a folded set are looked at one by one. -/
def spanPlace (test : CharTest) (p count : Nat) : Nat := if test.isFoldedSet then p + count else p

/-- Whether a program need not be tried at a place: it starts with a character or a set that does not
    match. -/
def Program.cannotStart (text : Array Char) (p : Nat) : Program → Bool
  | char test _ =>
    match test with
    | .letter .exact false _ | .set .exact .. => !holdsAt text test p
    | _ => false
  | _ => false

/-- Tries a continuation after `extra` characters more than `p`, then after one less, and so on down to
    `p`. Places without the character that has to come next are passed over. -/
def giveBack (text : Array Char) (inLoop : Bool) (ahead : Option Nat) (saved : Trace) (rest : Matcher)
    (p : Nat) : (extra : Nat) → Trace → Attempt
  | extra, t =>
    let place := p + extra
    let outcome : Attempt :=
      if ahead.any fun code => !(text[place]?.any fun c => c.toNat = code) then .failed t
      else (rest place (t.at_ place)).orElse fun later => .failed (later.afterFailure saved inLoop)
    match outcome, extra with
    | .matched t, _ => .matched t
    | .failed t, 0 => .failed t
    | .failed t, extra + 1 => giveBack text inLoop ahead saved rest p extra t

/-- Tries a continuation at `p`, then after one more character that passes the test, and so on, at most
    `room` characters further on. -/
def takeMore (text : Array Char) (inLoop : Bool) (test : CharTest) (saved : Trace) (rest : Matcher) :
    (room : Nat) → Matcher
  | room, p, t =>
    (rest p (t.at_ p)).orElse fun later =>
      let t := later.afterFailure saved inLoop
      if !holdsAt text test p then .failed (t.at_ p)
      else
        let t := t.at_ (spanPlace test p 1)
        match room with
        | 0 => .failed t
        | room + 1 => takeMore text inLoop test saved rest room (p + 1) t

/-- Matches a span before a continuation. -/
def matchSpan (text : Array Char) (inLoop : Bool) (ahead : Option Nat) (greed : Greed) (least : Nat)
    (most : Option Nat) (test : CharTest) (rest : Matcher) : Matcher := fun p t =>
  if text.size < p + least then .failed t
  else
    let limit := if greed = .lazy then least else spanLimit text most p
    let count := runLength text test 0 limit p
    let reached := t.at_ (spanPlace test p count)
    if count < least then .failed reached
    else
      match greed with
      | .greedy => giveBack text inLoop ahead reached rest (p + least) (count - least) reached
      | .lazy =>
        takeMore text inLoop test reached rest (spanLimit text most p - least) (p + least) reached
      | .possessive => rest (p + count) (t.at_ (p + count))

/-- Matches a loop that runs as often as possible. `count` runs lie behind, and `last` is the place
    from which the latest run beyond the least number started; a run that would start there again is
    not tried. `fuel` has to exceed the number of runs. -/
def matchGreedy (least : Nat) (most : Option Nat) (body : Matcher → Matcher) (rest : Matcher) :
    (fuel : Nat) → (count : Nat) → (last : Option Nat) → Matcher
  | 0, _, _, _, t => .failed t
  | fuel + 1, count, last, p, t =>
    let t := t.at_ p
    if count < least then
      (body (matchGreedy least most body rest fuel (count + 1) last) p t).failingAt p
    else
      let again : Attempt :=
        if most.all (count < ·) && last ≠ some p then
          body (matchGreedy least most body rest fuel (count + 1) (some p)) p t
        else .failed t
      again.orElse fun _ => (rest p t).failingAt p

/-- Matches a loop that runs as rarely as possible, with the same arguments. `inLoop` tells whether the
    loop is inside another one. -/
def matchLazy (inLoop : Bool) (least : Nat) (most : Option Nat) (body : Matcher → Matcher)
    (rest : Matcher) : (fuel : Nat) → (count : Nat) → (last : Option Nat) → Matcher
  | 0, _, _, _, t => .failed t
  | fuel + 1, count, last, p, t =>
    let t := t.at_ p
    if count < least then
      (body (matchLazy inLoop least most body rest fuel (count + 1) last) p t).failingAt p
    else
      (rest p t).orElse fun later =>
        let t := (later.afterFailure t inLoop).at_ p
        if most.all (count < ·) && last ≠ some p then
          (body (matchLazy inLoop least most body rest fuel (count + 1) (some p)) p t).failingAt p
        else .failed t

/-- Runs a body a fixed number of times, each time from where it has ended before. -/
def repeatLeast (body : Matcher) : Nat → Trace → Attempt
  | 0, t => .matched t
  | n + 1, t =>
    match body t.place t with
    | .matched t => repeatLeast body n t
    | .failed t => .failed t

/-- Runs a body as often as possible, at most `room` times if that is given, until it fails or has not
    moved from `last`. After a failure the marks are those from before, but the place is the one that
    the failed attempt has looked at last. `fuel` has to exceed the number of runs. -/
def repeatMost (body : Matcher) : (fuel : Nat) → (room : Option Nat) → (last : Option Nat) →
    Trace → Trace
  | 0, _, _, t => t
  | fuel + 1, room, last, t =>
    if room = some 0 || last = some t.place then t
    else
      match body t.place t with
      | .matched later => repeatMost body fuel (room.map (· - 1)) (some t.place) later
      | .failed later => { t with place := later.place }

/-- Matches a possessive repetition before a continuation. -/
def matchPossessive (text : Array Char) (least : Nat) (most : Option Nat) (body rest : Matcher) :
    Matcher := fun p t =>
  match repeatLeast body least (t.at_ p) with
  | .failed later => .failed (later.at_ p)
  | .matched later =>
    let last := repeatMost body (text.size + 2) (most.map (· - least)) none later
    rest last.place last

/-- Whether the texts from two places on are the same for a number of characters. -/
def sameText (text : Array Char) (folding : Folding) (p q : Nat) : (length : Nat) → Bool
  | 0 => true
  | length + 1 =>
    match text[p]?, text[q]? with
    | some c, some d =>
      folding.fold c.toNat == folding.fold d.toNat && sameText text folding (p + 1) (q + 1) length
    | _, _ => false

/-- Matches a program with a text. `inLoop` tells whether it is inside the body of a loop, `ahead` is
    the character that has to come after it if that is known, and `rest` is what has to match after
    it. -/
def Program.run (text : Array Char) : Program → (inLoop : Bool) → (ahead : Option Nat) →
    (rest : Matcher) → Matcher
  | done, _, _, rest, p, t => rest p t
  | fail, _, _, _, _, t => .failed t
  | char test next, inLoop, ahead, rest, p, t =>
    if holdsAt text test p then run text next inLoop ahead rest (p + 1) t else .failed t
  | anchor kind multiline ascii next, inLoop, ahead, rest, p, t =>
    if kind.holds multiline ascii text p then run text next inLoop ahead rest p t else .failed t
  | mark index next, inLoop, ahead, rest, p, t =>
    run text next inLoop ahead rest p (t.setMark index p)
  | choice first others next, inLoop, ahead, rest, p, t =>
    let after := fun p t => run text next inLoop ahead rest p t
    if first.cannotStart text p then run text others inLoop none after p t
    else
      (run text first inLoop none after p (t.at_ p)).orElse fun later =>
        run text others inLoop none after p (later.afterFailure t inLoop)
  | span greed least most test next, inLoop, ahead, rest, p, t =>
    matchSpan text inLoop (next.leading? ahead) greed least most test
      (fun p t => run text next inLoop ahead rest p t) p t
  | loop isLazy least most body next, inLoop, ahead, rest, p, t =>
    let once := fun again p t => run text body true none again p t
    let after := fun p t => run text next inLoop ahead rest p t
    let fuel := least + text.size + 2
    if isLazy then matchLazy inLoop least most once after fuel 0 none p t
    else matchGreedy least most once after fuel 0 none p t
  | possess least most body next, inLoop, ahead, rest, p, t =>
    matchPossessive text least most (fun p t => run text body inLoop none finish p t)
      (fun p t => run text next inLoop ahead rest p t) p t
  | atomic body next, inLoop, ahead, rest, p, t =>
    match run text body inLoop none finish p (t.at_ p) with
    | .matched later => run text next inLoop ahead rest later.place later
    | .failed later => .failed (later.at_ p)
  | look negated back body next, inLoop, ahead, rest, p, t =>
    if p < back then
      if negated then run text next inLoop ahead rest p t else .failed t
    else
      let start := p - back
      match run text body inLoop none finish start (t.at_ start), negated with
      | .matched later, false => run text next inLoop ahead rest p later
      | .failed later, false => .failed later
      | .matched later, true => .failed later
      | .failed later, true =>
        run text next inLoop ahead rest p (later.afterFailure t inLoop)
  | backreference folding number next, inLoop, ahead, rest, p, t =>
    match t.captured? number with
    | none => .failed t
    | some (start, stop) =>
      if sameText text folding start p (stop - start) then
        run text next inLoop ahead rest (p + (stop - start)) t
      else .failed t
  | conditional number yes no next, inLoop, ahead, rest, p, t =>
    let after := fun p t => run text next inLoop ahead rest p t
    let follows := next.leading? ahead
    if (t.captured? number).isSome then
      run text yes inLoop (if no = .done then follows else none) after p t
    else run text no inLoop follows after p t

end MarkupCleaner.Pattern
