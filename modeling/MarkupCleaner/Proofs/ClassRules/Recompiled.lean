import MarkupCleaner.Proofs.ClassRules.Notation
import MarkupCleaner.Proofs.ClassRules.Regrouped

/-!
# Compiling a respelled pattern

A valid pattern in which named groups are spelled comes to the same compiled pattern, unless what is taken for a
named group starts with an escaped parenthesis or stands in a set. In all other places of a valid pattern that
are no comments there is nothing to spell.
-/

namespace MarkupCleaner

namespace ClassRules

open Pattern

variable {r r' : Reader} {guarded : Bool}

/-! ## Items -/

theorem Respells.branch (h : Respells r r') : r'.frame.branch = r.frame.branch := by
  unfold Frame.branch
  rw [h.items]

theorem Respells.branches (h : Respells r r') : r'.frame.branches = r.frame.branches := by
  unfold Frame.branches
  rw [h.branch, h.alternatives]

theorem Respells.body (h : Respells r r') : r'.frame.body = r.frame.body := by
  unfold Frame.body
  rw [h.branches]

theorem Respells.groupWidth (h : Respells r r') : r'.groupWidth = r.groupWidth := by
  funext number
  unfold Reader.groupWidth
  rw [h.widths]

theorem Agrees.startAlternative (h : Respells r r') (place place' : Nat) (hhead : startsGroup r.left = false) :
    Agrees guarded (startAlternative place) (startAlternative place') r r' := by
  unfold Pattern.startAlternative
  refine .get_bind ?_
  dsimp only
  rw [h.opening, h.alternatives, h.branch]
  split
  · refine .ite (fun _ => .refuse_bind _ _ _ _) fun _ => ?_
    refine .bind (.next_of_not_startsGroup h hhead) fun _ s s' hs => .modify (hs.withFrame ?_) rfl
    exact unplaced_eq_iff.2 ⟨rfl, h.verbose, rfl, rfl⟩
  · refine .bind (.next_of_not_startsGroup h hhead) fun _ s s' hs => .modify (hs.withFrame ?_) rfl
    exact unplaced_eq_iff.2 ⟨rfl, h.verbose, rfl, rfl⟩

theorem Agrees.leaveGroup (h : Respells r r') (opening : Opening) {outer outer' : Frame} {outers outers' : List Frame}
    (houter : unplaced outer' = unplaced outer) (houters : outers'.map unplaced = outers.map unplaced)
    (hhead : startsGroup r.left = false) :
    Agrees guarded (leaveGroup opening outer outers) (leaveGroup opening outer' outers') r r' := by
  refine .bind (.next_of_not_startsGroup h hhead) fun _ s s' hs => .get_bind ?_
  rw [hs.body, hs.groupWidth, hs.branches]
  dsimp only
  refine .bind (.modify { hs with frame := houter, inner := houters } rfl) fun _ t t' ht => ?_
  cases opening with
  | capture number =>
    refine .bind (.modify { ht with widths := ?_ } rfl) fun _ _ _ hu => .push hu _
    rw [ht.widths]
  | flagged added removed => exact .push ht _
  | atomic => exact .push ht _
  | lookahead negated => exact .push ht _
  | lookbehind negated outermost =>
    exact .ite (fun _ => .bind (.modify { ht with behind := rfl } rfl) fun _ _ _ hu => .push hu _) fun _ =>
      .push ht _
  | conditional number =>
    dsimp only
    split
    · exact .push ht _
    · exact .push ht _

theorem Agrees.takeGreed (h : Respells r r') : Agrees guarded takeGreed takeGreed r r' := by
  refine .bind (.accept h (by decide)) fun isLazy s s' hs => .ite (fun _ => .pure hs _) fun _ => ?_
  exact .bind (.accept hs (by decide)) fun _ t t' ht => .ite (fun _ => .pure ht _) fun _ => .pure ht _

theorem Agrees.repeatLast (h : Respells r r') (place place' least : Nat) (most : Option Nat) :
    Agrees guarded (repeatLast place least most) (repeatLast place' least most) r r' := by
  unfold Pattern.repeatLast
  refine .get_bind ?_
  dsimp only
  rw [h.items]
  split
  · exact .refuse _ _ _
  · exact .refuse _ _ _
  · exact .refuse _ _ _
  · refine .bind (.takeGreed h) fun greed s s' hs => .modify (hs.withFrame ?_) rfl
    rw [unplaced_eq_iff]
    exact ⟨h.opening, h.verbose, h.alternatives, rfl⟩

theorem Agrees.repetitionBound (h : Respells r r') (digits : List Char) :
    Agrees guarded (repetitionBound digits) (repetitionBound digits) r r' := by
  unfold Pattern.repetitionBound
  split
  · exact .throw _ _
  · exact .ite (fun _ => .throw _ _) fun _ => .pure h _

/-- What stands for the bounds of a repetition, and whether a brace closes it. -/
def takeBoundsText : Reading (List Char × List Char × Bool) := do
  let low ← takeAll isDigit
  let comma ← accept ','
  let high ← if comma then takeAll isDigit else pure low
  return (low, high, ← accept '\x7d')

theorem Agrees.takeBoundsText (h : Respells r r') : Agrees guarded takeBoundsText takeBoundsText r r' := by
  refine .bind (.takeAll h (by decide)) fun low s s' hs => ?_
  refine .bind (.accept hs (by decide)) fun comma t t' ht => ?_
  refine .ite_bind (fun _ => .takeAll ht (by decide)) (fun _ => .pure ht _) fun high u u' hu => ?_
  exact .bind (.accept hu (by decide)) fun _ _ _ hv => .pure hv _

/-- The bounds that a text stands for. -/
def boundsOf (place : Nat) (low high : List Char) : Reading (Option (Nat × Option Nat)) := do
  let least ← if low.isEmpty then pure 0 else repetitionBound low
  if high.isEmpty then return some (least, none)
  let most ← repetitionBound high
  if most < least then refuse .leastAboveMost place
  return some (least, some most)

theorem takeBounds_eq :
    takeBounds =
      (do
        let before ← get
        if before.left.head? = some (.plain '\x7d') then return none
        let text ← takeBoundsText
        if !text.2.2 then
          modify fun _ => before
          return none
        boundsOf before.place text.1 text.2.1) := by
  refine StateT.ext fun r => ?_
  have hpeek : peek.run r = pure (r.left.head?, r) := rfl
  simp only [takeBounds, StateT.run_bind, StateT.run_get, hpeek, pure_bind]
  refine congrArg (fun f => StateT.run (if r.left.head? = some (.plain '\x7d') then pure none else f) r) ?_
  simp only [takeBoundsText, boundsOf, bind_assoc, pure_bind]
  refine bind_congr fun low => bind_congr fun comma => ?_
  cases comma <;> simp

theorem Agrees.boundsOf (h : Respells r r') (place place' : Nat) (low high : List Char) :
    Agrees guarded (boundsOf place low high) (boundsOf place' low high) r r' := by
  refine .ite_bind (fun _ => .pure h _) (fun _ => .repetitionBound h _) fun least s s' hs => ?_
  refine .ite (fun _ => .pure hs _) fun _ => .bind (.repetitionBound hs _) fun most t t' ht => ?_
  exact .ite (fun _ => .refuse_bind _ _ _ _) fun _ => .pure ht _

/-- What stands after a brace is taken for bounds, or else nothing is taken at all. -/
theorem Agrees.takeBounds (h : Respells r r') : Agrees guarded takeBounds takeBounds r r' := by
  rw [takeBounds_eq]
  refine .get_bind ?_
  rw [h.head?]
  refine .ite (fun _ => .pure h _) fun _ => ?_
  intro bounds t ht
  obtain ⟨text, s, htext, ht⟩ := reading_bind_eq_ok.1 ht
  have hagrees : Agrees false ClassRules.takeBoundsText ClassRules.takeBoundsText r r' := .takeBoundsText h
  obtain ⟨hleft, hsame⟩ := hagrees text s htext
  obtain ⟨s', htext', hs⟩ := hsame nofun
  cases hclosed : text.2.2 with
  | false =>
    rw [hclosed] at ht
    obtain ⟨_, _, hback, ht⟩ := reading_bind_eq_ok.1 ht
    obtain ⟨rfl, rfl⟩ := reading_pure_eq_ok.1 ht
    obtain ⟨-, rfl⟩ := Prod.mk.inj (Except.ok.inj hback)
    refine ⟨List.suffix_rfl, fun _ => ⟨r', reading_bind_eq_ok.2 ⟨text, s', htext', ?_⟩, h⟩⟩
    rw [hclosed]
    rfl
  | true =>
    rw [hclosed] at ht
    have hbounds : Agrees guarded (ClassRules.boundsOf r.place text.1 text.2.1)
        (ClassRules.boundsOf r'.place text.1 text.2.1) s s' := .boundsOf hs _ _ _ _
    obtain ⟨ht', hsame⟩ := hbounds bounds t ht
    refine ⟨ht'.trans hleft, fun huntouched => ?_⟩
    obtain ⟨t', ht', htt'⟩ := hsame fun hguarded => (huntouched hguarded).right hleft
    refine ⟨t', reading_bind_eq_ok.2 ⟨text, s', htext', ?_⟩, htt'⟩
    rw [hclosed]
    exact ht'

/-! ## Rounds -/

/-- Whether a lexeme starts an escape or a set. -/
def startsEscapeOrSet : Lexeme → Bool
  | .plain c => c = '['
  | .escaped _ => true

/-- The item that a lexeme starts is read alike; if it is an escape or a set, no named group may start in it. -/
theorem Agrees.takeItem (h : Respells r r') (place place' : Nat) {lexeme : Lexeme}
    (hguarded : startsEscapeOrSet lexeme = true → guarded = true) :
    Agrees guarded (takeItem place lexeme) (takeItem place' lexeme) r r' := by
  unfold Pattern.takeItem
  refine .get_bind ?_
  rw [h.verbose]
  cases lexeme with
  | escaped c =>
    obtain rfl := hguarded rfl
    exact .bind (.takeEscape h _ _ _) fun _ _ _ hs => .push hs _
  | plain c =>
    refine .ite (fun _ => .pure h _) fun _ => .ite (fun _ => .skipLine h) fun _ => ?_
    split
    · obtain rfl := hguarded rfl
      exact .bind (.takeSet h _ _) fun _ _ _ hs => .push hs _
    · exact .repeatLast h _ _ _ _
    · exact .repeatLast h _ _ _ _
    · exact .repeatLast h _ _ _ _
    · refine .bind (.takeBounds h) fun bounds s s' hs => ?_
      cases bounds with
      | none => exact .push hs _
      | some bounds => exact .repeatLast hs _ _ _ _
    · exact .push h _
    · exact .enterGroup h _ _
    · exact .push h _
    · exact .push h _
    · exact .push h _

theorem accept_eq_ok_of_head? {c : Char} {accepted : Bool} {s : Reader} (hhead : r.left.head? = some (.plain c))
    (h : (accept c).run r = .ok (accepted, s)) : accepted = true ∧ advanced r 1 = s := by
  obtain ⟨lexeme?, t, hpeek, h⟩ := reading_bind_eq_ok.1 h
  obtain ⟨rfl, rfl⟩ := reading_pure_eq_ok.1 (hpeek : (pure r.left.head? : Reading _).run r = _)
  rw [if_pos hhead] at h
  obtain ⟨_, u, hnext, h⟩ := reading_bind_eq_ok.1 h
  obtain ⟨rfl, rfl⟩ := reading_pure_eq_ok.1 h
  exact ⟨rfl, (next_eq_ok_iff.1 hnext).2.2⟩

theorem nextOfOpening_eq_ok {lexeme : Lexeme} {s : Reader} (h : nextOfOpening.run r = .ok (lexeme, s)) :
    r.left.head? = some lexeme ∧ advanced r 1 = s := by
  obtain ⟨lexeme?, t, hnext, h⟩ := reading_bind_eq_ok.1 h
  obtain ⟨-, hhead, rfl⟩ := next_eq_ok_iff.1 hnext
  cases lexeme? with
  | none => cases h
  | some first =>
    obtain ⟨rfl, rfl⟩ := reading_pure_eq_ok.1 h
    exact ⟨hhead, rfl⟩

/-- A group cannot be opened with what is spelled as a named group: it would be a lookbehind, and a name is no
    mark of one. -/
theorem refuses_enterGroup (start : Nat) (h : namesGroup r.left = true) : Refuses (enterGroup start) r := by
  obtain ⟨c, rest, hleft, hc⟩ := exists_of_namesGroup h
  intro a s hs
  obtain ⟨isExtension, t, haccept, hs⟩ := reading_bind_eq_ok.1 hs
  obtain ⟨rfl, rfl⟩ := accept_eq_ok_of_head? (by rw [hleft, List.head?_cons]) haccept
  obtain ⟨_, _, hget, hs⟩ := reading_bind_eq_ok.1 hs
  obtain ⟨rfl, rfl⟩ := get_eq_ok_iff.1 hget
  obtain ⟨angle, u, hangle, hs⟩ := reading_bind_eq_ok.1 hs
  obtain ⟨hhead, rfl⟩ := nextOfOpening_eq_ok hangle
  rw [advanced, hleft] at hhead
  obtain rfl := Option.some.inj hhead
  obtain ⟨first, v, hfirst, hs⟩ := reading_bind_eq_ok.1 (hs : (enterLookbehind start).run _ = _)
  obtain ⟨hhead, rfl⟩ := nextOfOpening_eq_ok hfirst
  simp only [advanced, hleft] at hhead
  obtain rfl := Option.some.inj hhead
  have hmark : (Lexeme.plain c = .plain '=' || Lexeme.plain c = .plain '!') = false := by
    rw [Bool.or_eq_false_iff, decide_eq_false_iff_not, decide_eq_false_iff_not]
    refine ⟨?_, ?_⟩
    · intro heq
      rw [Lexeme.plain.inj heq] at hc
      exact absurd hc (by decide)
    · intro heq
      rw [Lexeme.plain.inj heq] at hc
      exact absurd hc (by decide)
  simp only [hmark] at hs
  cases hs

theorem refuses_takeItem_parenthesis (place : Nat) (h : namesGroup r.left = true) :
    Refuses (takeItem place (.plain '(')) r := by
  have hrun : (takeItem place (.plain '(')).run r = (enterGroup place).run r := by
    have hblank : isSkippedBlank '(' = false := by decide
    simp [takeItem, hblank]
  intro a s hs
  exact refuses_enterGroup place h a s (hrun ▸ hs)

/-- One round of reading items, and whether there may be another one. -/
def takeRound : Reading Bool := do
  let r ← get
  match r.left.head?, r.inner, r.frame.opening with
  | none, _, _ => return false
  | some (.plain '|'), _, _ =>
    startAlternative r.place
    return true
  | some (.plain ')'), outer :: outers, some opening =>
    leaveGroup opening outer outers
    return true
  | some (.plain ')'), _, _ => return false
  | some lexeme, _, _ =>
    let _ ← next
    takeItem r.place lexeme
    return true

theorem takeItems_succ (fuel : Nat) :
    takeItems (fuel + 1) =
      (do
        let more ← takeRound
        if more then takeItems fuel else return) := by
  rw [takeItems, takeRound, bind_assoc]
  refine bind_congr fun r => ?_
  split
  · simp [*]
  · simp [*]
  · simp [*]
  · simp [*]
  · simp [*]

theorem takeRound_of_left_eq_nil (h : r.left = []) : takeRound.run r = (pure false : Reading Bool).run r := by
  simp [takeRound, h]

theorem takeRound_of_bar (h : r.left.head? = some (.plain '|')) :
    takeRound.run r = (do startAlternative r.place; return true).run r := by
  simp [takeRound, h]

theorem takeRound_of_close {outer : Frame} {outers : List Frame} {opening : Opening}
    (h : r.left.head? = some (.plain ')')) (hinner : r.inner = outer :: outers)
    (hopening : r.frame.opening = some opening) :
    takeRound.run r = (do leaveGroup opening outer outers; return true).run r := by
  simp [takeRound, h, hinner, hopening]

theorem takeRound_of_stop (h : r.left.head? = some (.plain ')')) (hstop : r.inner = [] ∨ r.frame.opening = none) :
    takeRound.run r = (pure false : Reading Bool).run r := by
  rcases hstop with hstop | hstop
  · simp [takeRound, h, hstop]
  · simp [takeRound, h, hstop]

theorem takeRound_of_item {lexeme : Lexeme} (h : r.left.head? = some lexeme) (hbar : lexeme ≠ .plain '|')
    (hclose : lexeme ≠ .plain ')') :
    takeRound.run r = (do let _ ← next; takeItem r.place lexeme; return true).run r := by
  simp [takeRound, h, hclose]

theorem Agrees.of_run_eq {α : Type} {f f' g g' : Reading α} (h : Agrees guarded g g' r r')
    (hf : f.run r = g.run r) (hf' : f'.run r' = g'.run r') : Agrees guarded f f' r r' := by
  intro a s hs
  rw [hf']
  exact h a s (hf ▸ hs)

/-- A closing parenthesis closes the same group in both patterns, or none is open in either. -/
theorem Agrees.takeRound_of_close (h : Respells r r') {rest : List Lexeme} (hleft : r.left = .plain ')' :: rest) :
    Agrees guarded takeRound takeRound r r' := by
  have hhead : r.left.head? = some (.plain ')') := by rw [hleft, List.head?_cons]
  have hhead' : r'.left.head? = some (.plain ')') := h.head?.trans hhead
  by_cases hstop : r.inner = [] ∨ r.frame.opening = none
  · have hstop' : r'.inner = [] ∨ r'.frame.opening = none := by
      rw [h.opening, ← List.map_eq_nil_iff (f := unplaced), h.inner, List.map_eq_nil_iff]
      exact hstop
    exact .of_run_eq (.pure h _) (takeRound_of_stop hhead hstop) (takeRound_of_stop hhead' hstop')
  · rw [not_or] at hstop
    obtain ⟨outer, outers, hinner⟩ := List.exists_cons_of_ne_nil hstop.1
    obtain ⟨opening, hopening⟩ := Option.ne_none_iff_exists'.1 hstop.2
    have houters := h.inner
    rw [hinner, List.map_cons, List.map_eq_cons_iff] at houters
    obtain ⟨outer', outers', hinner', houter, houters⟩ := houters
    refine .of_run_eq (.bind (.leaveGroup h opening houter houters ?_) fun _ _ _ hs => .pure hs _)
      (ClassRules.takeRound_of_close hhead hinner hopening)
      (ClassRules.takeRound_of_close hhead' hinner' (h.opening.trans hopening))
    rw [hleft]
    rfl

/-- The item that the next lexeme starts. If a named group is spelled there, its parenthesis is escaped or else
    refused. -/
theorem Agrees.takeItem_of_next (h : Respells r r') {lexeme : Lexeme} {rest : List Lexeme} (place place' : Nat)
    (hleft : r.left = lexeme :: rest) (hguarded : startsEscapeOrSet lexeme = true → guarded = true) :
    Agrees guarded (do let _ ← Pattern.next; Pattern.takeItem place lexeme; return true)
      (do let _ ← Pattern.next; Pattern.takeItem place' lexeme; return true) r r' := by
  by_cases hstarts : startsGroup r.left = true
  · rw [hleft, startsGroup, Bool.and_eq_true] at hstarts
    rcases eq_of_isParenthesis hstarts.1 with rfl | rfl
    · intro a t ht
      obtain ⟨lexeme?, s, hnext, ht⟩ := reading_bind_eq_ok.1 ht
      obtain ⟨-, -, rfl⟩ := next_eq_ok_iff.1 hnext
      refine absurd ht ((refuses_takeItem_parenthesis _ ?_).bind _ a t)
      rw [advanced, hleft]
      exact hstarts.2
    · obtain rfl := hguarded rfl
      exact .bind (.next h) fun _ _ _ hs => .bind (.takeItem hs _ _ fun _ => rfl) fun _ _ _ ht => .pure ht _
  · refine .bind (.next_of_not_startsGroup h (Bool.eq_false_iff.2 hstarts)) fun _ s s' hs => ?_
    exact .bind (.takeItem hs _ _ hguarded) fun _ _ _ ht => .pure ht _

/-- A round is the same in both patterns; if it reads an escape or a set, no named group may start in it. -/
theorem Agrees.takeRound (h : Respells r r')
    (hguarded : ∀ lexeme ∈ r.left.head?, startsEscapeOrSet lexeme = true → guarded = true) :
    Agrees guarded takeRound takeRound r r' := by
  cases hleft : r.left with
  | nil =>
    have hleft' : r'.left = [] := by rw [h.left, hleft, spelled_nil]
    exact .of_run_eq (.pure h _) (takeRound_of_left_eq_nil hleft) (takeRound_of_left_eq_nil hleft')
  | cons lexeme rest =>
    have hhead : r.left.head? = some lexeme := by rw [hleft, List.head?_cons]
    have hhead' : r'.left.head? = some lexeme := h.head?.trans hhead
    by_cases hbar : lexeme = .plain '|'
    · subst hbar
      refine .of_run_eq (.bind (.startAlternative h _ _ ?_) fun _ _ _ hs => .pure hs _) (takeRound_of_bar hhead)
        (takeRound_of_bar hhead')
      rw [hleft]
      rfl
    by_cases hclose : lexeme = .plain ')'
    · subst hclose
      exact .takeRound_of_close h hleft
    · exact .of_run_eq (.takeItem_of_next h _ _ hleft (hguarded lexeme hhead)) (takeRound_of_item hhead hbar hclose)
        (takeRound_of_item hhead' hbar hclose)

/-- What is read next is an escape or a set in which a named group starts. -/
def TakesGroup (r : Reader) : Prop :=
  (∃ lexeme ∈ r.left.head?, startsEscapeOrSet lexeme = true) ∧
    ∃ s, (takeItems 1).run r = .ok ((), s) ∧ ¬Untouched r.left s.left

theorem takeItems_one_of_takeRound {more : Bool} {s : Reader} (h : takeRound.run r = .ok (more, s)) :
    (takeItems 1).run r = .ok ((), s) := by
  rw [takeItems_succ, reading_bind_eq_ok]
  refine ⟨more, s, h, ?_⟩
  cases more <;> rfl

theorem agrees_takeRound (h : Respells r r') (hkeeps : ¬TakesGroup r) :
    Agrees false takeRound takeRound r r' := by
  by_cases hitem : ∃ lexeme ∈ r.left.head?, startsEscapeOrSet lexeme = true
  · intro more s hs
    have hguarded : Agrees true takeRound takeRound r r' := .takeRound h fun _ _ _ => rfl
    obtain ⟨hleft, hsame⟩ := hguarded more s hs
    refine ⟨hleft, fun _ => hsame fun _ => ?_⟩
    by_contra huntouched
    exact hkeeps ⟨hitem, s, takeItems_one_of_takeRound hs, huntouched⟩
  · exact .takeRound h fun lexeme hlexeme hstarts => absurd ⟨lexeme, hlexeme, hstarts⟩ hitem

/-! ## Whole patterns -/

theorem takeItems_of_left_eq_nil (fuel : Nat) (h : r.left = []) : (takeItems fuel).run r = .ok ((), r) := by
  cases fuel with
  | zero => rfl
  | succ fuel =>
    rw [takeItems_succ, reading_bind_eq_ok]
    exact ⟨false, r, takeRound_of_left_eq_nil h, rfl⟩

/-- Rounds after rounds both readers keep up with each other, until nothing is left. -/
theorem takeItems_respelled {fuel fuel' : Nat} {s : Reader} (hfuel : fuel ≤ fuel') (h : Respells r r')
    (hkeeps : ∀ rounds t, (takeItems rounds).run r = .ok ((), t) → ¬TakesGroup t)
    (hs : (takeItems fuel).run r = .ok ((), s)) (hleft : s.left = []) :
    ∃ s', (takeItems fuel').run r' = .ok ((), s') ∧ Respells s s' := by
  induction fuel generalizing fuel' r r' with
  | zero =>
    obtain ⟨-, rfl⟩ := reading_pure_eq_ok.1 hs
    exact ⟨r', takeItems_of_left_eq_nil _ (by rw [h.left, hleft, spelled_nil]), h⟩
  | succ fuel ih =>
    obtain ⟨fuel', rfl⟩ : ∃ n, fuel' = n + 1 := ⟨fuel' - 1, by omega⟩
    rw [takeItems_succ] at hs
    obtain ⟨more, t, hround, hs⟩ := reading_bind_eq_ok.1 hs
    obtain ⟨-, hsame⟩ := agrees_takeRound h (hkeeps 0 r rfl) more t hround
    obtain ⟨t', hround', ht⟩ := hsame nofun
    cases more with
    | false =>
      obtain ⟨-, rfl⟩ := reading_pure_eq_ok.1 hs
      refine ⟨t', ?_, ht⟩
      rw [takeItems_succ]
      exact reading_bind_eq_ok.2 ⟨false, t', hround', rfl⟩
    | true =>
      have hkeeps' : ∀ rounds u, (takeItems rounds).run t = .ok ((), u) → ¬TakesGroup u := by
        intro rounds u hu
        refine hkeeps (rounds + 1) u ?_
        rw [takeItems_succ]
        exact reading_bind_eq_ok.2 ⟨true, t, hround, hu⟩
      obtain ⟨s', hs', hss'⟩ := ih (Nat.le_of_succ_le_succ hfuel) ht hkeeps' hs
      refine ⟨s', ?_, hss'⟩
      rw [takeItems_succ]
      exact reading_bind_eq_ok.2 ⟨true, t', hround', hs'⟩

theorem find?_fst_eq_none_iff {bound : Nat} {references : List (Nat × Nat)} :
    (references.find? fun reference => bound < reference.1) = none ↔
      ∀ number ∈ references.map Prod.fst, number ≤ bound := by
  simp

/-- What goes on only when nothing is left. -/
theorem Agrees.bind_of_left_eq_nil {β : Type} {f f' : Reading Unit} {k k' : Unit → Reading β}
    (hf : ∀ s, f.run r = .ok ((), s) → s.left = [] → ∃ s', f'.run r' = .ok ((), s') ∧ Respells s s')
    (hleft : ∀ s, s.left ≠ [] → Refuses (k ()) s)
    (hk : ∀ s s', Respells s s' → Agrees false (k ()) (k' ()) s s') :
    Agrees false (f >>= k) (f' >>= k') r r' := by
  intro b t hb
  obtain ⟨_, s, hs, ht⟩ := reading_bind_eq_ok.1 hb
  have hnil : s.left = [] := by
    by_contra hne
    exact hleft s hne b t ht
  obtain ⟨s', hs', hss'⟩ := hf s hs hnil
  obtain ⟨hsuffix, hsame⟩ := hk s s' hss' b t ht
  obtain ⟨t', ht', htt'⟩ := hsame nofun
  rw [hnil, List.suffix_nil] at hsuffix
  exact ⟨hsuffix ▸ List.nil_suffix, fun _ => ⟨t', reading_bind_eq_ok.2 ⟨(), s', hs', ht'⟩, htt'⟩⟩

theorem Agrees.takePattern (h : Respells r r')
    (hkeeps : ∀ rounds s, (takeItems rounds).run r = .ok ((), s) → ¬TakesGroup s) :
    Agrees false takePattern takePattern r r' := by
  unfold Pattern.takePattern
  refine .get_bind ?_
  rw [h.dangling, h.isEmpty]
  refine .ite (fun _ => .refuse_bind _ _ _ _) fun _ => .bind_of_left_eq_nil ?_ ?_ ?_
  · intro s hs hnil
    exact takeItems_respelled (Nat.succ_le_succ h.length_le) h hkeeps hs hnil
  · intro s hne c t ht
    obtain ⟨_, _, hget, ht⟩ := reading_bind_eq_ok.1 ht
    obtain ⟨rfl, rfl⟩ := get_eq_ok_iff.1 hget
    have hleft : (!s.left.isEmpty) = true := by simpa using hne
    simp only [hleft] at ht
    split at ht
    · cases ht
    · split at ht
      · cases ht
      · cases ht
  · intro s s' hs
    refine .get_bind ?_
    rw [hs.isEmpty_inner, hs.flags, hs.isEmpty, hs.widths, hs.body, hs.groupWidth, hs.names]
    dsimp only
    refine .ite (fun _ => .refuse_bind _ _ _ _) fun _ => .ite (fun _ => .throw_bind _ _ _) fun _ => ?_
    refine .ite (fun _ => .refuse_bind _ _ _ _) fun _ => ?_
    split
    · exact .refuse_bind _ _ _ _
    · next hnone =>
      have hnone' : (s'.references.find? fun reference => s.widths.length < reference.1) = none := by
        rw [find?_fst_eq_none_iff, hs.references, ← find?_fst_eq_none_iff]
        exact hnone
      rw [hnone']
      dsimp only
      split
      · exact .throw _ _
      · exact .ite (fun _ => .throw_bind _ _ _) fun _ => .pure hs _

/-- The reader at the start of a pattern. -/
def startReader (text : List Char) : Reader where
  left := (lexemes text).1
  place := 0
  dangling := (lexemes text).2
  frame := { opening := none, start := 0, verbose := false }

theorem compile_eq_ok_iff {text : List Char} {c : CompiledPattern} :
    compile text = .ok c ↔ ∃ s, takePattern.run (startReader text) = .ok (c, s) := by
  change (takePattern.run (startReader text)).map Prod.fst = .ok c ↔ _
  cases takePattern.run (startReader text) with
  | error fault => simp [Except.map]
  | ok result => simp [Except.map, Prod.ext_iff]

theorem respells_startReader (text : List Char) : Respells (startReader text) (startReader (spellGroups text)) := by
  have hlexemes := lexemes_spellGroups text
  exact ⟨by simp [startReader, hlexemes], by simp [startReader, hlexemes], rfl, rfl, rfl, rfl, rfl, rfl, rfl⟩

/-- Reading a pattern comes to an escape or a set in which a named group starts. -/
def HidesGroup (text : List Char) : Prop :=
  ∃ rounds r, (takeItems rounds).run (startReader text) = .ok ((), r) ∧ TakesGroup r

theorem compile_spellGroups {text : List Char} {c : CompiledPattern} (hhides : ¬HidesGroup text)
    (h : compile text = .ok c) : compile (spellGroups text) = .ok c := by
  obtain ⟨s, hs⟩ := compile_eq_ok_iff.1 h
  have hkeeps : ∀ rounds r, (takeItems rounds).run (startReader text) = .ok ((), r) → ¬TakesGroup r :=
    fun rounds r hr htakes => hhides ⟨rounds, r, hr, htakes⟩
  obtain ⟨-, hsame⟩ := Agrees.takePattern (respells_startReader text) hkeeps c s hs
  obtain ⟨s', hs', -⟩ := hsame nofun
  exact compile_eq_ok_iff.2 ⟨s', hs'⟩

theorem takeItems_suffix {rounds : Nat} {s : Reader} (h : (takeItems rounds).run r = .ok ((), s)) :
    s.left <:+ r.left := by
  induction rounds generalizing r with
  | zero =>
    obtain ⟨-, rfl⟩ := reading_pure_eq_ok.1 h
    exact List.suffix_rfl
  | succ rounds ih =>
    rw [takeItems_succ] at h
    obtain ⟨more, t, hround, h⟩ := reading_bind_eq_ok.1 h
    have hagrees : Agrees true takeRound takeRound r _ := .takeRound (respells_spelled r) fun _ _ _ => rfl
    have ht : t.left <:+ r.left := (hagrees more t hround).1
    cases more with
    | false =>
      obtain ⟨-, rfl⟩ := reading_pure_eq_ok.1 h
      exact ht
    | true => exact (ih h).trans ht

/-- A pattern without escapes and sets hides no group, whatever its comments hold. -/
theorem not_hidesGroup {text : List Char} (h : ∀ lexeme ∈ (lexemes text).1, startsEscapeOrSet lexeme = false) :
    ¬HidesGroup text := by
  rintro ⟨rounds, r, hr, ⟨lexeme, hlexeme, hstarts⟩, -⟩
  have hmem : lexeme ∈ (lexemes text).1 := (takeItems_suffix hr).subset (List.mem_of_mem_head? hlexeme)
  rw [h lexeme hmem] at hstarts
  cases hstarts

/-- A user's pattern that is valid as it is written, and not between slashes, is compiled as it is written, unless
    one of its escapes or sets is taken for a named group. -/
theorem compileUser_of_compile {pattern : String} {c : CompiledPattern} (hslashes : ¬IsDelimited pattern.toList)
    (hhides : ¬HidesGroup pattern.toList) (h : Pattern.compile pattern.toList = .ok c) :
    compileUser pattern = .valid c := by
  have hnormal : normalizePattern pattern.toList = spellGroups pattern.toList := by
    rw [normalizePattern, withoutSlashes_eq_self hslashes]
  unfold compileUser
  simp only [hnormal, compile_spellGroups hhides h]

/-- A comment may hold what is spelled. -/
theorem compileUser_of_compile_commented :
    ¬IsDelimited "(?#(?<n>)a?".toList ∧ ¬HidesGroup "(?#(?<n>)a?".toList ∧
      compileUser "(?#(?<n>)a?" =
        .valid ⟨.seq (.repeated .greedy 0 (some 1) (.literal 97)) .empty, ⟨0, 1⟩, [], 0, []⟩ := by
  have hslashes : ¬IsDelimited "(?#(?<n>)a?".toList := by decide
  have hhides : ¬HidesGroup "(?#(?<n>)a?".toList := not_hidesGroup (by decide)
  exact ⟨hslashes, hhides, compileUser_of_compile hslashes hhides (by decide +kernel)⟩

/-- An escaped parenthesis opens no group, but it is spelled as if it did: the pattern is found in the token as it
    is written, and not as it is compiled. -/
theorem compileUser_of_compile_fails :
    ¬∀ (pattern : String) (c : CompiledPattern), ¬IsDelimited pattern.toList →
      Pattern.compile pattern.toList = .ok c →
        ∃ c', compileUser pattern = .valid c' ∧
          ∀ token : String, c'.search? token.toList = c.search? token.toList := by
  intro h
  let written : CompiledPattern :=
    ⟨.seq (.repeated .greedy 0 (some 1) (.literal 40))
      (.seq (.literal 60) (.seq (.literal 97) (.seq (.literal 62) .empty))), ⟨3, 4⟩, [], 0, []⟩
  let respelled : CompiledPattern :=
    ⟨.seq (.repeated .greedy 0 (some 1) (.literal 40))
      (.seq (.literal 80) (.seq (.literal 60) (.seq (.literal 97) (.seq (.literal 62) .empty)))),
      ⟨4, 5⟩, [], 0, []⟩
  have hwritten : Pattern.compile "\\(?<a>".toList = .ok written := by decide +kernel
  have hrespelled : compileUser "\\(?<a>" = .valid respelled := by
    have hcompile : Pattern.compile (normalizePattern "\\(?<a>".toList) = .ok respelled := by decide +kernel
    unfold compileUser
    simp only [hcompile]
  obtain ⟨c', hc', hsearch⟩ := h "\\(?<a>" written (by decide) hwritten
  obtain rfl := Compiled.valid.inj (hrespelled.symm.trans hc')
  have hdiffers : respelled.search? "<a>".toList ≠ written.search? "<a>".toList := by decide +kernel
  exact hdiffers (hsearch "<a>")

end ClassRules
end MarkupCleaner
