import MarkupCleaner.Pattern.Compile
import MarkupCleaner.Proofs.ClassRules.Respelled

/-!
# Groups of a respelled pattern

Reading what opens and closes a group. A valid pattern has no named group in its names, its flags and the
openings of its groups: a parenthesis there is refused, and so is a group that is opened with `(?<name>`. What is
skipped as a comment may hold anything.
-/

namespace MarkupCleaner

namespace ClassRules

open Pattern

variable {r r' : Reader} {guarded : Bool}

theorem unplaced_eq_iff {f f' : Frame} :
    unplaced f' = unplaced f ↔
      f'.opening = f.opening ∧ f'.verbose = f.verbose ∧ f'.alternatives = f.alternatives ∧
        f'.items = f.items := by
  simp [unplaced]

theorem Respells.withFrame {f f' : Frame} (h : Respells r r') (hframe : unplaced f' = unplaced f) :
    Respells { r with frame := f } { r' with frame := f' } :=
  { h with frame := hframe }

/-! ## Flags -/

theorem Agrees.of_refuses {α : Type} {f : Reading α} (h : Refuses f r) (f' : Reading α) :
    Agrees guarded f f' r r' :=
  fun a s hs => absurd hs (h a s)

theorem Refuses.bind {α β : Type} {f : Reading α} (h : Refuses f r) (k : α → Reading β) :
    Refuses (f >>= k) r := by
  intro b t hb
  obtain ⟨a, s, hf, -⟩ := reading_bind_eq_ok.1 hb
  exact h a s hf

theorem refuses_refuseFlag {α : Type} (lexeme : Lexeme) (otherwise : Cause) :
    Refuses (refuseFlag lexeme otherwise : Reading α) r := by
  intro a s hs
  cases hs

theorem refuses_takeAdded (added : Flags) (fuel : Nat) : Refuses (takeAdded added '(' fuel) r := by
  intro a s hs
  cases fuel <;> cases hs

theorem refuses_takeRemoved (removed : Flags) (fuel : Nat) : Refuses (takeRemoved removed '(' fuel) r := by
  intro a s hs
  cases fuel <;> cases hs

theorem Agrees.takeAdded {fuel fuel' : Nat} (hfuel : fuel ≤ fuel') (added : Flags) (c : Char)
    (h : Respells r r') : Agrees guarded (takeAdded added c fuel) (takeAdded added c fuel') r r' := by
  induction fuel generalizing fuel' added c r r' with
  | zero =>
    intro a s hs
    cases hs
  | succ fuel ih =>
    obtain ⟨fuel', rfl⟩ : ∃ n, fuel' = n + 1 := ⟨fuel' - 1, by omega⟩
    have hfuel : fuel ≤ fuel' := by omega
    unfold Pattern.takeAdded
    split
    · exact .of_refuses (refuses_refuseFlag _ _) _
    · next flag _ =>
      dsimp only
      refine .ite (fun _ => .here_bind (.refuse_bind _ _ _ _)) fun _ => ?_
      refine .ite (fun _ => .here_bind (.refuse_bind _ _ _ _)) fun _ => .next_bind h ?_ fun lexeme? s s' hs => ?_
      · intro lexeme s hparenthesis _
        rcases eq_of_isParenthesis hparenthesis with rfl | rfl
        · exact refuses_takeAdded _ _
        · exact refuses_refuseFlag _ _
      · split
        · exact .here_bind (.refuse _ _ _)
        · exact .of_refuses (refuses_refuseFlag _ _) _
        · exact .ite (fun _ => .pure hs _) fun _ => ih hfuel _ _ hs

theorem Agrees.takeRemoved {fuel fuel' : Nat} (hfuel : fuel ≤ fuel') (removed : Flags) (c : Char)
    (h : Respells r r') : Agrees guarded (takeRemoved removed c fuel) (takeRemoved removed c fuel') r r' := by
  induction fuel generalizing fuel' removed c r r' with
  | zero =>
    intro a s hs
    cases hs
  | succ fuel ih =>
    obtain ⟨fuel', rfl⟩ : ∃ n, fuel' = n + 1 := ⟨fuel' - 1, by omega⟩
    have hfuel : fuel ≤ fuel' := by omega
    unfold Pattern.takeRemoved
    split
    · exact .of_refuses (refuses_refuseFlag _ _) _
    · next flag _ =>
      dsimp only
      refine .ite (fun _ => .here_bind (.refuse_bind _ _ _ _)) fun _ => .next_bind h ?_ fun lexeme? s s' hs => ?_
      · intro lexeme s hparenthesis _
        rcases eq_of_isParenthesis hparenthesis with rfl | rfl
        · exact refuses_takeRemoved _ _
        · exact refuses_refuseFlag _ _
      · split
        · exact .here_bind (.refuse _ _ _)
        · exact .of_refuses (refuses_refuseFlag _ _) _
        · exact .ite (fun _ => .pure hs _) fun _ => ih hfuel _ _ hs

theorem Agrees.takeFlags (h : Respells r r') (first : Char) :
    Agrees guarded (takeFlags first) (takeFlags first) r r' := by
  have hfuel : r.left.length + 1 ≤ r'.left.length + 1 := Nat.succ_le_succ h.length_le
  unfold Pattern.takeFlags
  refine .get_bind ?_
  dsimp only
  refine .ite_bind (fun _ => .pure h _) (fun _ => .takeAdded hfuel _ _ h) fun added s s' hs => ?_
  obtain ⟨added, ending⟩ := added
  dsimp only
  refine .ite (fun _ => .pure hs _) fun _ => .ite (fun _ => .here_bind (.refuse_bind _ _ _ _)) fun _ => ?_
  refine .ite (fun _ => .next_bind hs ?_ fun lexeme? t t' ht => ?_) fun _ => ?_
  · intro lexeme s hparenthesis _
    rcases eq_of_isParenthesis hparenthesis with rfl | rfl
    · exact (refuses_takeRemoved _ _).bind _
    · exact (refuses_refuseFlag _ _).bind _
  · split
    · exact .here_bind (.refuse_bind _ _ _ _)
    · exact .of_refuses ((refuses_refuseFlag _ _).bind _) _
    · refine .bind (.takeRemoved hfuel _ _ ht) fun removed u u' hu => ?_
      exact .ite (fun _ => .here_bind (.refuse_bind _ _ _ _)) fun _ =>
        .ite (fun _ => .here_bind (.refuse_bind _ _ _ _)) fun _ => .pure hu _
  · refine .bind (.pure hs _) fun removed t t' ht => ?_
    exact .ite (fun _ => .here_bind (.refuse_bind _ _ _ _)) fun _ =>
      .ite (fun _ => .here_bind (.refuse_bind _ _ _ _)) fun _ => .pure ht _

/-! ## Openings -/

theorem Agrees.push (h : Respells r r') (item : Pattern) : Agrees guarded (push item) (push item) r r' := by
  refine .modify (h.withFrame ?_) rfl
  rw [unplaced_eq_iff]
  exact ⟨h.opening, h.verbose, h.alternatives, congrArg (List.cons item) h.items⟩

theorem Agrees.enter (h : Respells r r') (opening : Opening) (start start' : Nat) (verbose : Bool) :
    Agrees guarded (enter opening start verbose) (enter opening start' verbose) r r' := by
  refine .modify { h with inner := ?_, frame := rfl } rfl
  simp only [List.map_cons, h.inner, h.frame]

theorem agrees_capture (h : Respells r r') (number start start' : Nat) (verbose : Bool) :
    Agrees guarded
      (do
        modify fun r => { r with widths := r.widths ++ [none] }
        enter (.capture number) start verbose)
      (do
        modify fun r => { r with widths := r.widths ++ [none] }
        enter (.capture number) start' verbose) r r' := by
  refine .bind (.modify { h with widths := ?_ } rfl) fun _ s s' hs => .enter hs _ _ _ _
  simp only [h.widths]

theorem Agrees.enterCapture (h : Respells r r') (start start' : Nat) (name : Option (List Char)) :
    Agrees guarded (enterCapture start name) (enterCapture start' name) r r' := by
  unfold Pattern.enterCapture
  refine .get_bind ?_
  rw [h.widths, h.names, h.verbose]
  dsimp only
  split
  · exact agrees_capture h _ _ _ _
  · split
    · exact .refuse_bind _ _ _ _
    · refine .bind (.modify { h with names := ?_ } rfl) fun _ s s' hs => agrees_capture hs _ _ _ _
      simp only [h.names]

theorem Agrees.takeIdentifier {terminator : Char} (h : Respells r r') (hterminator : terminator ≠ '(') :
    Agrees guarded (takeIdentifier terminator) (takeIdentifier terminator) r r' := by
  refine .takeName_bind h hterminator ?_ fun name s s' hs => ?_
  · intro name s hmem
    simp only [isForeign_parenthesis.isIdentifier hmem]
    intro a t ht
    cases ht
  · exact .ite (fun _ => .here_bind (.refuse_bind _ _ _ _)) fun _ => .pure hs _

theorem Agrees.takeNamedReference (h : Respells r r') :
    Agrees guarded takeNamedReference takeNamedReference r r' := by
  refine .bind (.takeIdentifier h (by decide)) fun name s s' hs => .get_bind ?_
  rw [hs.names]
  dsimp only
  split
  · exact .refuse _ _ _
  · rw [hs.isClosed]
    refine .ite (fun _ => .refuse_bind _ _ _ _) fun _ => ?_
    exact .bind (.checkBehind hs _) fun _ _ _ ht => .pure ht _

/-- What comes to no result in the condition of a conditional. -/
theorem refuses_takeCondition (h : namesGroup r.left = true) : Refuses takeCondition r := by
  intro number t ht
  obtain ⟨name, s, hname, ht⟩ := reading_bind_eq_ok.1 ht
  have hmark : '?' ∈ name := by
    obtain ⟨run, rest, hleft, -, hne, -, rfl, -⟩ := takeName_eq_ok_iff.1 hname
    obtain ⟨c, more, hgroup, -⟩ := exists_of_namesGroup h
    obtain ⟨first, others, rfl⟩ := List.exists_cons_of_ne_nil hne
    rw [hgroup, List.cons_append] at hleft
    obtain ⟨rfl, -⟩ := List.cons.inj hleft
    exact List.mem_cons_self
  simp only [isForeign_mark.isIdentifier hmark, isForeign_mark.groupNumber? hmark] at ht
  cases ht

theorem Agrees.takeCondition (h : Respells r r') :
    Agrees guarded takeCondition takeCondition r r' := by
  have hcheck {s s' : Reader} (hs : Respells s s') (number : Nat) :
      Agrees guarded (do Pattern.checkBehind number; return number)
        (do Pattern.checkBehind number; return number) s s' :=
    .bind (.checkBehind hs number) fun _ _ _ ht => .pure ht _
  refine .takeName_bind h (by decide) ?_ fun name s s' hs => .get_bind ?_
  · intro name s hmem number t ht
    simp only [isForeign_parenthesis.isIdentifier hmem, isForeign_parenthesis.groupNumber? hmem] at ht
    cases ht
  · rw [hs.names]
    dsimp only
    refine .ite (fun _ => ?_) fun _ => ?_
    · split
      · exact .bind (.pure hs _) fun number t t' ht => hcheck ht number
      · exact .refuse_bind _ _ _ _
    · split
      · exact .refuse_bind _ _ _ _
      · refine .ite (fun _ => .refuse_bind _ _ _ _) fun _ => .ite (fun _ => .refuse_bind _ _ _ _) fun _ => ?_
        refine .bind (.modify { hs with references := ?_ } rfl) fun _ t t' ht =>
          .bind (.pure ht _) fun number u u' hu => hcheck hu number
        simp only [List.map_append, hs.references, List.map_cons, List.map_nil]

/-! ## Comments -/

/-- What is skipped may differ. -/
theorem Agrees.skip_bind {β : Type} {count count' : Nat} {k k' : List Lexeme → Reading β} (h : Respells r r')
    (hdrop : r'.left.drop count' = spelled (r.left.drop count)) (hempty : r.left = [] → r'.left = [])
    (hk : ∀ taken taken', Agrees guarded (k taken) (k' taken') (advanced r count) (advanced r' count')) :
    Agrees guarded (Pattern.take count >>= k) (Pattern.take count' >>= k') r r' := by
  intro b t hb
  obtain ⟨taken, s, htake, hkt⟩ := reading_bind_eq_ok.1 hb
  obtain ⟨hdangling, rfl, rfl⟩ := take_eq_ok_iff.1 htake
  obtain ⟨ht, hsame⟩ := hk _ (r'.left.take count') b t hkt
  refine ⟨ht.trans (List.drop_suffix _ _), fun huntouched => ?_⟩
  obtain ⟨t', ht', htt'⟩ := hsame fun hguarded => (huntouched hguarded).right (List.drop_suffix _ _)
  refine ⟨t', reading_bind_eq_ok.2 ⟨_, _, take_eq_ok_iff.2 ⟨?_, rfl, rfl⟩, ht'⟩, htt'⟩
  rw [h.dangling, hdrop, spelled_eq_nil_iff]
  intro hd hnil
  have hleft : r.left = [] := by
    rw [← List.take_append_drop count r.left, hdangling hd hnil, hnil]
    rfl
  rw [hempty hleft, List.take_nil]

theorem drop_length_takeWhile {α : Type} (p : α → Bool) (xs : List α) :
    xs.drop (xs.takeWhile p).length = xs.dropWhile p := by
  nth_rewrite 2 [← List.takeWhile_append_dropWhile (p := p) (l := xs)]
  rw [List.drop_left]

/-- Everything up to a stop is skipped, and the stop. -/
theorem Agrees.skipTo_bind {β : Type} {stop : Char} {k k' : Option Lexeme → Reading β} (h : Respells r r')
    (hmark : stop ≠ '?') (hletter : stop ≠ 'P') (hparenthesis : stop ≠ '(')
    (hk : ∀ lexeme? s s', Respells s s' → Agrees guarded (k lexeme?) (k' lexeme?) s s') :
    Agrees guarded
      (do
        let _ ← Pattern.take (r.left.takeWhile (· ≠ .plain stop)).length
        k (← Pattern.next))
      (do
        let _ ← Pattern.take (r'.left.takeWhile (· ≠ .plain stop)).length
        k' (← Pattern.next)) r r' := by
  have hdrop : r'.left.drop (r'.left.takeWhile (· ≠ .plain stop)).length =
      spelled (r.left.drop (r.left.takeWhile (· ≠ .plain stop)).length) := by
    rw [drop_length_takeWhile, drop_length_takeWhile, h.left, dropWhile_spelled hmark hletter]
  refine .skip_bind h hdrop (fun hnil => ?_) fun _ _ => ?_
  · rw [h.left, hnil, spelled_nil]
  · refine .bind (.next_of_not_startsGroup (h.advanced hdrop) ?_) hk
    rw [advanced, drop_length_takeWhile]
    cases hrest : r.left.dropWhile (· ≠ .plain stop) with
    | nil => rfl
    | cons lexeme rest =>
      have hstop := List.head?_dropWhile_not (· ≠ .plain stop) r.left
      rw [hrest, List.head?_cons] at hstop
      obtain rfl : lexeme = .plain stop := by simpa using hstop
      simp [startsGroup, isParenthesis, hparenthesis]

theorem Agrees.skipComment (h : Respells r r') (start start' : Nat) :
    Agrees guarded (skipComment start) (skipComment start') r r' := by
  refine .get_bind (.skipTo_bind h (by decide) (by decide) (by decide) fun lexeme? s s' hs => ?_)
  split
  · exact .refuse _ _ _
  · exact .pure hs _

theorem Agrees.skipLine (h : Respells r r') : Agrees guarded skipLine skipLine r r' :=
  .get_bind (.skipTo_bind h (by decide) (by decide) (by decide) fun _ _ _ hs => .pure hs _)

/-! ## Opening a group -/

theorem Agrees.nextOfOpening_bind {β : Type} {k k' : Lexeme → Reading β} (h : Respells r r')
    (hrefuses : ∀ lexeme s, isParenthesis lexeme = true → namesGroup s.left = true → Refuses (k lexeme) s)
    (hk : ∀ lexeme s s', Respells s s' → Agrees guarded (k lexeme) (k' lexeme) s s') :
    Agrees guarded (nextOfOpening >>= k) (nextOfOpening >>= k') r r' := by
  unfold nextOfOpening
  rw [bind_assoc, bind_assoc]
  refine .next_bind h hrefuses fun lexeme? s s' hs => ?_
  cases lexeme? with
  | none => exact .refuse_bind _ _ _ _
  | some lexeme => exact hk lexeme s s' hs

theorem refuses_refuseExtension {α : Type} (start : Nat) (lead : List Char) (lexeme : Lexeme) :
    Refuses (refuseExtension start lead lexeme : Reading α) r := by
  intro a s hs
  cases hs

theorem Agrees.enterNamed (h : Respells r r') (start start' : Nat) :
    Agrees guarded (enterNamed start) (enterNamed start') r r' := by
  refine .bind (.accept h (by decide)) fun isName s s' hs => .ite (fun _ => ?_) fun _ => ?_
  · exact .bind (.takeIdentifier hs (by decide)) fun name t t' ht => .enterCapture ht _ _ _
  · refine .bind (.accept hs (by decide)) fun isReference t t' ht => .ite (fun _ => ?_) fun _ => ?_
    · exact .bind (.takeNamedReference ht) fun item u u' hu => .push hu _
    · refine .nextOfOpening_bind ht (fun _ _ _ _ => refuses_refuseExtension _ _ _) fun _ _ _ _ => ?_
      exact .of_refuses (refuses_refuseExtension _ _ _) _

theorem Agrees.enterLookbehind (h : Respells r r') (start start' : Nat) :
    Agrees guarded (enterLookbehind start) (enterLookbehind start') r r' := by
  refine .nextOfOpening_bind h ?_ fun lexeme s s' hs => .ite (fun _ => .get_bind ?_) fun _ => ?_
  · intro lexeme s hparenthesis _
    rcases eq_of_isParenthesis hparenthesis with rfl | rfl
    · exact refuses_refuseExtension _ _ _
    · exact refuses_refuseExtension _ _ _
  · rw [hs.behind, hs.verbose]
    dsimp only
    refine .ite (fun _ => .bind (.modify { hs with behind := ?_ } rfl) fun _ t t' ht => .enter ht _ _ _ _) fun _ =>
      .enter hs _ _ _ _
    rw [hs.widths]
  · exact .of_refuses (refuses_refuseExtension _ _ _) _

theorem Agrees.enterFlagged (h : Respells r r') (start start' : Nat) (flags : GroupFlags) :
    Agrees guarded (enterFlagged start flags) (enterFlagged start' flags) r r' := by
  unfold Pattern.enterFlagged
  refine .get_bind ?_
  cases flags with
  | global added =>
    rw [h.isEmpty_inner, h.alternatives, h.items]
    dsimp only
    refine .ite (fun _ => .refuse_bind _ _ _ _) fun _ => .modify { h with flags := ?_, frame := ?_ } rfl
    · rw [h.flags]
    · rw [unplaced_eq_iff, h.flags]
      exact ⟨h.opening, rfl, h.alternatives, h.items⟩
  | within added removed =>
    rw [h.verbose]
    exact .enter h _ _ _ _

theorem Agrees.enterGroup (h : Respells r r') (start start' : Nat) :
    Agrees guarded (enterGroup start) (enterGroup start') r r' := by
  unfold Pattern.enterGroup
  refine .bind (.accept h (by decide)) fun isExtension s s' hs => .ite (fun _ => .enterCapture hs _ _ _) fun _ => ?_
  refine .get_bind ?_
  rw [hs.verbose]
  refine .nextOfOpening_bind hs ?_ fun lexeme t t' ht => ?_
  · intro lexeme s hparenthesis hnames
    rcases eq_of_isParenthesis hparenthesis with rfl | rfl
    · exact (refuses_takeCondition hnames).bind _
    · exact refuses_refuseExtension _ _ _
  · cases lexeme with
    | escaped c => exact .of_refuses (refuses_refuseExtension _ _ _) _
    | plain c =>
      dsimp only
      split
      · exact .enterNamed ht _ _
      · exact .enter ht _ _ _ _
      · exact .skipComment ht _ _
      · exact .enter ht _ _ _ _
      · exact .enter ht _ _ _ _
      · exact .enterLookbehind ht _ _
      · exact .bind (.takeCondition ht) fun _ _ _ hu => .enter hu _ _ _ _
      · exact .enter ht _ _ _ _
      · refine .ite (fun _ => .bind (.takeFlags ht _) fun _ _ _ hu => .enterFlagged hu _ _ _) fun _ => ?_
        exact .of_refuses (refuses_refuseExtension _ _ _) _

end ClassRules
end MarkupCleaner
