import Mathlib.Data.List.TakeWhile
import MarkupCleaner.Proofs.ClassRules.Spelling
import MarkupCleaner.Pattern.Group
import MarkupCleaner.Proofs.Data.Except
import MarkupCleaner.Proofs.Data.Runs
import MarkupCleaner.Proofs.Text.Cuts
import MarkupCleaner.Proofs.Text.Trim

/-!
# Reading a respelled pattern

What the reader does with a pattern and with the same pattern after its named groups have been spelled. Two
readers that have come equally far keep doing so as long as no lexeme is taken at which a named group starts;
only places differ, and they matter for refusals alone.
-/

namespace MarkupCleaner

namespace ClassRules

open Pattern

/-! ## Readers that have come equally far -/

/-- A frame without its place. -/
def unplaced (f : Frame) : Frame := { f with start := 0 }

/-- The reader `r'` has come as far in the respelled pattern as `r` has in the pattern. -/
structure Respells (r r' : Reader) : Prop where
  left : r'.left = spelled r.left
  dangling : r'.dangling = r.dangling
  flags : r'.flags = r.flags
  widths : r'.widths = r.widths
  names : r'.names = r.names
  behind : r'.behind = r.behind
  references : r'.references.map Prod.fst = r.references.map Prod.fst
  inner : r'.inner.map unplaced = r.inner.map unplaced
  frame : unplaced r'.frame = unplaced r.frame

variable {r r' : Reader}

/-- There is such a reader for every reader. -/
theorem respells_spelled (r : Reader) : Respells r { r with left := spelled r.left } :=
  ⟨rfl, rfl, rfl, rfl, rfl, rfl, rfl, rfl, rfl⟩

theorem Respells.opening (h : Respells r r') : r'.frame.opening = r.frame.opening :=
  (congrArg Frame.opening h.frame :)

theorem Respells.verbose (h : Respells r r') : r'.frame.verbose = r.frame.verbose :=
  (congrArg Frame.verbose h.frame :)

theorem Respells.alternatives (h : Respells r r') : r'.frame.alternatives = r.frame.alternatives :=
  (congrArg Frame.alternatives h.frame :)

theorem Respells.items (h : Respells r r') : r'.frame.items = r.frame.items :=
  (congrArg Frame.items h.frame :)

theorem Respells.head? (h : Respells r r') : r'.left.head? = r.left.head? := by
  rw [h.left, head?_spelled]

theorem Respells.isEmpty (h : Respells r r') : r'.left.isEmpty = r.left.isEmpty := by
  rw [Bool.eq_iff_iff, List.isEmpty_iff, List.isEmpty_iff, h.left, spelled_eq_nil_iff]

theorem Respells.length_le (h : Respells r r') : r.left.length ≤ r'.left.length :=
  h.left ▸ length_le_length_spelled r.left

theorem Respells.isEmpty_inner (h : Respells r r') : r'.inner.isEmpty = r.inner.isEmpty := by
  rw [← List.isEmpty_map (f := unplaced), h.inner, List.isEmpty_map]

theorem Respells.isClosed (h : Respells r r') (number : Nat) : r'.isClosed number = r.isClosed number := by
  unfold Reader.isClosed
  rw [h.widths]

/-- The step `f'` does on `r'` what `f` does on `r`, if `f` comes to a result; a guarded step need do so only if
    no named group starts in what is taken. -/
def Agrees {α : Type} (guarded : Bool) (f f' : Reading α) (r r' : Reader) : Prop :=
  ∀ a s, f.run r = .ok (a, s) →
    s.left <:+ r.left ∧
      ((guarded = true → Untouched r.left s.left) → ∃ s', f'.run r' = .ok (a, s') ∧ Respells s s')

/-! ## Steps in general -/

section

variable {α β : Type} {guarded : Bool}

theorem reading_bind_eq_ok {f : Reading α} {k : α → Reading β} {b : β} {t : Reader} :
    (f >>= k).run r = .ok (b, t) ↔ ∃ a s, f.run r = .ok (a, s) ∧ (k a).run s = .ok (b, t) := by
  rw [StateT.run_bind, except_bind_eq_ok, Prod.exists]

theorem reading_pure_eq_ok {a b : α} {s : Reader} :
    (Pure.pure a : Reading α).run r = .ok (b, s) ↔ a = b ∧ r = s := by
  rw [StateT.run_pure]
  exact ⟨fun h => Prod.mk.inj (Except.ok.inj h), fun ⟨ha, hr⟩ => by rw [ha, hr]; rfl⟩

theorem here_eq_ok_iff {place : Nat} {s : Reader} : here.run r = .ok (place, s) ↔ r.place = place ∧ r = s :=
  reading_pure_eq_ok

theorem get_eq_ok_iff {r₁ s : Reader} : (get : Reading Reader).run r = .ok (r₁, s) ↔ r = r₁ ∧ r = s :=
  reading_pure_eq_ok

theorem Agrees.pure (h : Respells r r') (a : α) :
    Agrees guarded (Pure.pure a : Reading α) (Pure.pure a) r r' := by
  intro b s hb
  obtain ⟨rfl, rfl⟩ := reading_pure_eq_ok.1 hb
  exact ⟨List.suffix_rfl, fun _ => ⟨r', rfl, h⟩⟩

theorem Agrees.throw (fault : Fault) (f' : Reading α) :
    Agrees guarded (MonadExcept.throw fault : Reading α) f' r r' := by
  intro b s hb
  cases hb

theorem Agrees.refuse (cause : Cause) (place : Nat) (f' : Reading α) :
    Agrees guarded (Pattern.refuse cause place : Reading α) f' r r' :=
  .throw _ f'

theorem Agrees.bind {f f' : Reading α} {k k' : α → Reading β} (hf : Agrees guarded f f' r r')
    (hk : ∀ a s s', Respells s s' → Agrees guarded (k a) (k' a) s s') :
    Agrees guarded (f >>= k) (f' >>= k') r r' := by
  intro b t h
  obtain ⟨a, s, hfs, hkt⟩ := reading_bind_eq_ok.1 h
  obtain ⟨hs, hsame⟩ := hf a s hfs
  have ht := (hk a s _ (respells_spelled s) b t hkt).1
  refine ⟨ht.trans hs, fun huntouched => ?_⟩
  obtain ⟨s', hfs', hss'⟩ := hsame fun hguarded => (huntouched hguarded).left ht
  obtain ⟨t', hkt', htt'⟩ := (hk a s s' hss' b t hkt).2 fun hguarded => (huntouched hguarded).right hs
  exact ⟨t', reading_bind_eq_ok.2 ⟨a, s', hfs', hkt'⟩, htt'⟩

theorem Agrees.throw_bind (fault : Fault) (k : α → Reading β) (f' : Reading β) :
    Agrees guarded ((MonadExcept.throw fault : Reading α) >>= k) f' r r' := by
  intro b t h
  obtain ⟨a, s, hthrow, -⟩ := reading_bind_eq_ok.1 h
  cases hthrow

theorem Agrees.refuse_bind (cause : Cause) (place : Nat) (k : α → Reading β) (f' : Reading β) :
    Agrees guarded ((Pattern.refuse cause place : Reading α) >>= k) f' r r' :=
  .throw_bind _ k f'

theorem Agrees.get_bind {k k' : Reader → Reading β} (hk : Agrees guarded (k r) (k' r') r r') :
    Agrees guarded (get >>= k) (get >>= k') r r' :=
  hk

theorem Agrees.here_bind {k k' : Nat → Reading β} (hk : Agrees guarded (k r.place) (k' r'.place) r r') :
    Agrees guarded (here >>= k) (here >>= k') r r' :=
  hk

theorem Agrees.modify {g g' : Reader → Reader} (h : Respells (g r) (g' r')) (hleft : (g r).left = r.left) :
    Agrees guarded (modify g : Reading Unit) (modify g') r r' := by
  intro b s hb
  obtain ⟨rfl, rfl⟩ := Prod.mk.inj (Except.ok.inj hb)
  exact ⟨hleft ▸ List.suffix_rfl, fun _ => ⟨g' r', rfl, h⟩⟩

theorem Agrees.ite {c : Prop} [Decidable c] {f f' k k' : Reading α} (hf : c → Agrees guarded f f' r r')
    (hk : ¬c → Agrees guarded k k' r r') :
    Agrees guarded (if c then f else k) (if c then f' else k') r r' := by
  by_cases hc : c
  · rw [if_pos hc, if_pos hc]
    exact hf hc
  · rw [if_neg hc, if_neg hc]
    exact hk hc

theorem Agrees.ite_bind {c : Prop} [Decidable c] {f f' g g' : Reading α} {k k' : α → Reading β}
    (hf : c → Agrees guarded f f' r r') (hg : ¬c → Agrees guarded g g' r r')
    (hk : ∀ a s s', Respells s s' → Agrees guarded (k a) (k' a) s s') :
    Agrees guarded (if c then f >>= k else g >>= k) (if c then f' >>= k' else g' >>= k') r r' :=
  .ite (fun hc => .bind (hf hc) hk) fun hc => .bind (hg hc) hk

end

/-! ## Taking lexemes -/

/-- A reader that has taken some lexemes. -/
def advanced (r : Reader) (count : Nat) : Reader :=
  { r with left := r.left.drop count, place := r.place + (lexemeText (r.left.take count)).length }

theorem left_advanced_of_append {run rest : List Lexeme} (h : r.left = run ++ rest) :
    (advanced r run.length).left = rest := by
  rw [advanced, h, List.drop_left]

theorem take_eq_ok_iff {count : Nat} {taken : List Lexeme} {s : Reader} :
    (take count).run r = .ok (taken, s) ↔
      (r.dangling = true → r.left.drop count = [] → r.left.take count = []) ∧
        r.left.take count = taken ∧ advanced r count = s := by
  have hrun : (take count).run r =
      if (r.dangling && (r.left.drop count).isEmpty && !(r.left.take count).isEmpty) = true then
        .error (.malformed .danglingEscape (some (advanced r count).place))
      else .ok (r.left.take count, advanced r count) := by
    simp only [take, StateT.run_bind, StateT.run_get, pure_bind]
    split <;> rfl
  rw [hrun]
  by_cases h : (r.dangling && (r.left.drop count).isEmpty && !(r.left.take count).isEmpty) = true
  · rw [if_pos h]
    simp only [Bool.and_eq_true, Bool.not_eq_true', List.isEmpty_iff, List.isEmpty_eq_false_iff] at h
    simp [h]
  · rw [if_neg h]
    simp only [Bool.and_eq_true, Bool.not_eq_true', List.isEmpty_iff, List.isEmpty_eq_false_iff, not_and,
      not_not, and_imp] at h
    simpa using fun _ _ => h

theorem next_eq_ok_iff {lexeme? : Option Lexeme} {s : Reader} :
    next.run r = .ok (lexeme?, s) ↔
      (r.dangling = true → r.left.tail = [] → r.left = []) ∧ r.left.head? = lexeme? ∧ advanced r 1 = s := by
  have htail : r.left.drop 1 = r.left.tail := List.drop_one
  unfold next
  rw [reading_bind_eq_ok]
  simp only [take_eq_ok_iff, reading_pure_eq_ok, htail]
  cases r.left with
  | nil => simp
  | cons lexeme rest => simp

theorem Respells.advanced {count count' : Nat} (h : Respells r r')
    (hleft : r'.left.drop count' = spelled (r.left.drop count)) :
    Respells (advanced r count) (advanced r' count') :=
  { h with left := hleft }

section

variable {guarded : Bool}

/-- What is taken is the same where it stays as it is. -/
theorem Agrees.take {count : Nat} (h : Respells r r')
    (hspelled : spelled r.left = r.left.take count ++ spelled (r.left.drop count)) :
    Agrees guarded (Pattern.take count) (Pattern.take count) r r' := by
  have htake : r'.left.take count = r.left.take count := by
    rw [h.left, hspelled]
    by_cases hcount : count ≤ r.left.length
    · rw [List.take_left' (List.length_take_of_le hcount)]
    · rw [List.drop_of_length_le (by omega), spelled_nil, List.append_nil, List.take_take, Nat.min_self]
  have hdrop : r'.left.drop count = spelled (r.left.drop count) := by
    rw [h.left, hspelled]
    by_cases hcount : count ≤ r.left.length
    · rw [List.drop_left' (List.length_take_of_le hcount)]
    · rw [List.drop_of_length_le (by omega : r.left.length ≤ count), spelled_nil, List.append_nil,
        List.drop_of_length_le (by rw [List.length_take]; omega)]
  intro taken s hs
  obtain ⟨hdangling, rfl, rfl⟩ := take_eq_ok_iff.1 hs
  refine ⟨List.drop_suffix _ _, fun _ => ⟨ClassRules.advanced r' count, ?_, h.advanced hdrop⟩⟩
  rw [take_eq_ok_iff, h.dangling, htake, hdrop, spelled_eq_nil_iff]
  exact ⟨hdangling, rfl, rfl⟩

theorem Agrees.next_of_not_startsGroup (h : Respells r r') (hstarts : startsGroup r.left = false) :
    Agrees guarded next next r r' := by
  refine .bind (.take h ?_) fun _ _ _ hs => .pure hs _
  cases hleft : r.left with
  | nil => rfl
  | cons lexeme rest => exact spelled_of_not_startsGroup (hleft ▸ hstarts)

theorem Agrees.next (h : Respells r r') : Agrees true next next r r' := by
  by_cases hstarts : startsGroup r.left = true
  · intro lexeme? s hs
    obtain ⟨-, -, rfl⟩ := next_eq_ok_iff.1 hs
    refine ⟨List.drop_suffix _ _, fun huntouched => ?_⟩
    have hpos : r.left ≠ [] := by
      intro hnil
      rw [hnil] at hstarts
      cases hstarts
    have hlength : (r.left.drop 1).length < r.left.length := by
      have := List.length_pos_iff.2 hpos
      rw [List.length_drop]
      omega
    exact absurd hstarts (Bool.eq_false_iff.1 (huntouched rfl _ List.suffix_rfl hlength))
  · exact .next_of_not_startsGroup h (Bool.eq_false_iff.2 hstarts)

/-- A step that comes to no result. -/
def Refuses {α : Type} (f : Reading α) (r : Reader) : Prop := ∀ a s, f.run r ≠ .ok (a, s)

/-- A lexeme at which a named group starts may be taken by what goes on to refuse it. -/
theorem Agrees.next_bind {β : Type} {k k' : Option Lexeme → Reading β} (h : Respells r r')
    (hrefuses : ∀ lexeme s, isParenthesis lexeme = true → namesGroup s.left = true →
      Refuses (k (some lexeme)) s)
    (hk : ∀ lexeme? s s', Respells s s' → Agrees guarded (k lexeme?) (k' lexeme?) s s') :
    Agrees guarded (Pattern.next >>= k) (Pattern.next >>= k') r r' := by
  by_cases hstarts : startsGroup r.left = true
  · intro b t hb
    obtain ⟨lexeme?, s, hnext, hkt⟩ := reading_bind_eq_ok.1 hb
    obtain ⟨-, rfl, rfl⟩ := next_eq_ok_iff.1 hnext
    cases hleft : r.left with
    | nil =>
      rw [hleft] at hstarts
      cases hstarts
    | cons lexeme rest =>
      rw [hleft, startsGroup, Bool.and_eq_true] at hstarts
      rw [hleft, List.head?_cons] at hkt
      refine absurd hkt (hrefuses lexeme _ hstarts.1 ?_ b t)
      rw [ClassRules.advanced, hleft]
      exact hstarts.2
  · exact .bind (.next_of_not_startsGroup h (Bool.eq_false_iff.2 hstarts)) hk

theorem Agrees.accept {c : Char} (h : Respells r r') (hc : c ≠ '(') :
    Agrees guarded (accept c) (accept c) r r' := by
  unfold Pattern.accept peek
  refine .get_bind ?_
  simp only [h.head?]
  refine .ite (fun heq => ?_) fun _ => .pure h _
  refine .bind (.next_of_not_startsGroup h ?_) fun _ _ _ hs => .pure hs _
  obtain ⟨rest, hrest⟩ := List.head?_eq_some_iff.1 heq
  simp [hrest, startsGroup, isParenthesis, hc]

/-- A run of lexemes without parentheses can be taken. -/
theorem Agrees.takeRun {run : List Lexeme} (h : Respells r r') (hrun : run <+: r.left)
    (hplain : ∀ lexeme ∈ run, isParenthesis lexeme = false) :
    Agrees guarded (Pattern.take run.length) (Pattern.take run.length) r r' := by
  apply Agrees.take h
  apply spelled_eq_take_append
  rw [← List.prefix_iff_eq_take.1 hrun]
  exact hplain

theorem Agrees.takeChars {p : Char → Bool} (h : Respells r r') (hp : p '(' = false) (count : Nat) :
    Agrees guarded (takeChars count p) (takeChars count p) r r' := by
  unfold Pattern.takeChars
  refine .get_bind ?_
  rw [h.left, takeWhile_take_spelled hp]
  refine .bind (.takeRun h ?_ ?_) fun _ _ _ hs => .pure hs _
  · exact (List.takeWhile_prefix _).trans (List.take_prefix _ _)
  · intro lexeme hlexeme
    exact isParenthesis_of_isPlain hp (List.mem_takeWhile_imp hlexeme)

theorem Agrees.takeAll {p : Char → Bool} (h : Respells r r') (hp : p '(' = false) :
    Agrees guarded (takeAll p) (takeAll p) r r' := by
  have hall := takeWhile_take_spelled hp (spelled r.left).length r.left
  rw [List.take_length, List.take_of_length_le (length_le_length_spelled _)] at hall
  unfold Pattern.takeAll Pattern.takeChars
  refine .get_bind (.get_bind ?_)
  rw [h.left, List.take_length, List.take_length, hall]
  refine .bind (.takeRun h (List.takeWhile_prefix _) ?_) fun _ _ _ hs => .pure hs _
  intro lexeme hlexeme
  exact isParenthesis_of_isPlain hp (List.mem_takeWhile_imp hlexeme)

/-! ## Names -/

theorem lexemeText_eq_nil_iff {lexemes : List Lexeme} : lexemeText lexemes = [] ↔ lexemes = [] := by
  cases lexemes with
  | nil => simp [lexemeText]
  | cons lexeme rest => cases lexeme <;> simp [lexemeText, Lexeme.text]

/-- Lexemes up to the first stop, if there is one. -/
theorem exists_of_head?_drop_takeWhile {stop lexeme : Lexeme} {left : List Lexeme}
    (h : (left.drop (left.takeWhile (· ≠ stop)).length).head? = some lexeme) :
    ∃ run rest, left = run ++ stop :: rest ∧ stop ∉ run := by
  by_cases hmem : stop ∈ left
  · exact List.eq_append_cons_of_mem hmem
  · have hall : left.takeWhile (· ≠ stop) = left := by
      rw [List.takeWhile_eq_self_iff]
      intro x hx
      simpa using ne_of_mem_of_not_mem hx hmem
    rw [hall, List.drop_length] at h
    cases h

/-- A name is what is in front of its terminator. -/
theorem takeName_eq_ok_iff {terminator : Char} {kind : String} {name : List Char} {s : Reader} :
    (takeName terminator kind).run r = .ok (name, s) ↔
      ∃ run rest, r.left = run ++ .plain terminator :: rest ∧ .plain terminator ∉ run ∧ run ≠ [] ∧
        (r.dangling = true → rest ≠ []) ∧ lexemeText run = name ∧
        advanced (advanced r run.length) 1 = s := by
  simp only [takeName, reading_bind_eq_ok, here_eq_ok_iff, get_eq_ok_iff, take_eq_ok_iff, next_eq_ok_iff]
  constructor
  · rintro ⟨_, _, ⟨rfl, rfl⟩, _, _, ⟨rfl, rfl⟩, taken, _, ⟨-, rfl, rfl⟩, lexeme?, _, ⟨hdangling, hhead, rfl⟩, h⟩
    cases lexeme? with
    | none =>
      dsimp only at h
      split at h
      · cases h
      · cases h
    | some lexeme =>
      obtain ⟨run, rest, hleft, hrun⟩ := exists_of_head?_drop_takeWhile hhead
      have htake : r.left.takeWhile (· ≠ .plain terminator) = run := by
        rw [hleft, takeWhile_ne_append hrun rest]
      have hrest := left_advanced_of_append hleft
      rw [htake] at h hdangling
      rw [hrest] at hdangling
      rw [hleft, List.take_left] at h
      dsimp only at h
      split at h
      · cases h
      · next hname =>
        obtain ⟨rfl, rfl⟩ := reading_pure_eq_ok.1 h
        rw [List.isEmpty_iff, lexemeText_eq_nil_iff] at hname
        exact ⟨run, rest, hleft, hrun, hname, fun hd hnil => by simpa using hdangling hd hnil, rfl, rfl⟩
  · rintro ⟨run, rest, hleft, hrun, hne, hdangling, rfl, rfl⟩
    have htake : r.left.takeWhile (· ≠ .plain terminator) = run := by
      rw [hleft, takeWhile_ne_append hrun rest]
    have hrest := left_advanced_of_append hleft
    have hempty : (lexemeText run).isEmpty = false := by
      rw [List.isEmpty_eq_false_iff, Ne, lexemeText_eq_nil_iff]
      exact hne
    refine ⟨_, _, ⟨rfl, rfl⟩, _, _, ⟨rfl, rfl⟩, _, _, ⟨?_, rfl, rfl⟩, _, _, ⟨?_, rfl, rfl⟩, ?_⟩
    · intro _ hnil
      rw [htake, hleft, List.drop_left] at hnil
      cases hnil
    · intro hd hnil
      rw [htake, hrest] at hnil
      exact absurd hnil (hdangling hd)
    · rw [htake, hrest, hleft, List.take_left, List.head?_cons]
      simp only [hempty]
      exact reading_pure_eq_ok.2 ⟨rfl, rfl⟩

theorem mem_lexemeText_of_isParenthesis {lexeme : Lexeme} {lexemes : List Lexeme} (h : lexeme ∈ lexemes)
    (hparenthesis : isParenthesis lexeme = true) : '(' ∈ lexemeText lexemes := by
  refine List.mem_flatMap.2 ⟨lexeme, h, ?_⟩
  rcases eq_of_isParenthesis hparenthesis with rfl | rfl <;> simp [Lexeme.text]

/-- A name is the same if no named group starts in it or it has no parenthesis at all. -/
theorem Respells.takeName {terminator : Char} {kind : String} {name : List Char} {s : Reader}
    (h : Respells r r') (hterminator : terminator ≠ '(')
    (hs : (takeName terminator kind).run r = .ok (name, s)) :
    s.left <:+ r.left ∧
      (Untouched r.left s.left ∨ '(' ∉ name →
        ∃ s', (Pattern.takeName terminator kind).run r' = .ok (name, s') ∧ Respells s s') := by
  obtain ⟨run, rest, hleft, hrun, hne, hdangling, rfl, rfl⟩ := takeName_eq_ok_iff.1 hs
  have hrest : (ClassRules.advanced (ClassRules.advanced r run.length) 1).left = rest :=
    congrArg (List.drop 1) (left_advanced_of_append hleft)
  refine ⟨?_, fun hplain => ?_⟩
  · rw [hrest, hleft]
    exact (List.suffix_cons _ _).trans (List.suffix_append _ _)
  have hspelled : spelled r.left = run ++ .plain terminator :: spelled rest := by
    have hused : r.left = (run ++ [.plain terminator]) ++ rest := by simp [hleft]
    rcases hplain with huntouched | hname
    · rw [hrest, hused] at huntouched
      rw [hused, huntouched.spelled_append]
      simp
    · have hlexemes : ∀ lexeme ∈ run ++ [.plain terminator], isParenthesis lexeme = false := by
        intro lexeme hlexeme
        rw [← Bool.not_eq_true]
        intro hparenthesis
        rcases List.mem_append.1 hlexeme with hmem | hmem
        · exact hname (mem_lexemeText_of_isParenthesis hmem hparenthesis)
        · rw [List.mem_singleton.1 hmem, isParenthesis, decide_eq_true_eq] at hparenthesis
          exact hterminator hparenthesis
      rw [hused, spelled_append _ hlexemes]
      simp
  have hnext : r'.left.drop run.length = .plain terminator :: spelled rest := by
    rw [h.left, hspelled, List.drop_left]
  refine ⟨ClassRules.advanced (ClassRules.advanced r' run.length) 1, ?_, (h.advanced ?_).advanced ?_⟩
  · refine takeName_eq_ok_iff.2 ⟨run, spelled rest, h.left.trans hspelled, hrun, hne, ?_, rfl, rfl⟩
    rw [h.dangling, Ne, spelled_eq_nil_iff]
    exact hdangling
  · rw [hnext, hleft, List.drop_left, spelled_of_not_isParenthesis]
    simpa [isParenthesis] using hterminator
  · change (r'.left.drop run.length).drop 1 = spelled ((r.left.drop run.length).drop 1)
    rw [hnext, hleft, List.drop_left]
    rfl

theorem Agrees.takeName {terminator : Char} {kind : String} (h : Respells r r') (hterminator : terminator ≠ '(') :
    Agrees true (takeName terminator kind) (takeName terminator kind) r r' := by
  intro name s hs
  obtain ⟨hleft, hsame⟩ := h.takeName hterminator hs
  exact ⟨hleft, fun huntouched => hsame (.inl (huntouched rfl))⟩

/-- A name with a parenthesis may be taken by what goes on to refuse it. -/
theorem Agrees.takeName_bind {β : Type} {terminator : Char} {kind : String} {k k' : List Char → Reading β}
    (h : Respells r r') (hterminator : terminator ≠ '(')
    (hrefuses : ∀ name s, '(' ∈ name → Refuses (k name) s)
    (hk : ∀ name s s', Respells s s' → Agrees guarded (k name) (k' name) s s') :
    Agrees guarded (Pattern.takeName terminator kind >>= k) (Pattern.takeName terminator kind >>= k') r r' := by
  intro b t hb
  obtain ⟨name, s, hname, hkt⟩ := reading_bind_eq_ok.1 hb
  have hplain : '(' ∉ name := fun hmem => hrefuses name s hmem b t hkt
  obtain ⟨hs, hsame⟩ := h.takeName hterminator hname
  obtain ⟨s', hs', hss'⟩ := hsame (.inr hplain)
  obtain ⟨ht, htsame⟩ := hk name s s' hss' b t hkt
  refine ⟨ht.trans hs, fun huntouched => ?_⟩
  obtain ⟨t', ht', htt'⟩ := htsame fun hguarded => (huntouched hguarded).right hs
  exact ⟨t', reading_bind_eq_ok.2 ⟨name, s', hs', ht'⟩, htt'⟩

/-- A character that neither the name nor the number of a group holds. -/
structure IsForeign (c : Char) : Prop where
  identifier : Unicode.isIdentifierContinue c = false
  blank : Text.isBlankChar c = false
  minus : c ≠ '-'
  plus : c ≠ '+'

theorem IsForeign.start {c : Char} (h : IsForeign c) : Unicode.isIdentifierStart c = false := by
  have hidentifier := h.identifier
  simp only [Unicode.isIdentifierContinue, Bool.or_eq_false_iff] at hidentifier
  exact hidentifier.1.1.1

theorem IsForeign.decimal {c : Char} (h : IsForeign c) : Unicode.isDecimal c = false := by
  have hidentifier := h.identifier
  simp only [Unicode.isIdentifierContinue, Bool.or_eq_false_iff] at hidentifier
  exact hidentifier.1.1.2

theorem IsForeign.underscore {c : Char} (h : IsForeign c) : c ≠ '_' := by
  have hunderscore : Unicode.isIdentifierContinue '_' = true := by decide
  rintro rfl
  rw [h.identifier] at hunderscore
  cases hunderscore

theorem isForeign_parenthesis : IsForeign '(' :=
  ⟨by decide, by decide, by decide, by decide⟩

theorem isForeign_mark : IsForeign '?' :=
  ⟨by decide, by decide, by decide, by decide⟩

theorem IsForeign.isIdentifier {c : Char} {name : List Char} (h : IsForeign c) (hmem : c ∈ name) :
    Unicode.isIdentifier name = false := by
  rw [← Bool.not_eq_true]
  intro hname
  cases name with
  | nil => cases hmem
  | cons d ds =>
    rw [Unicode.isIdentifier, Bool.and_eq_true, List.all_eq_true] at hname
    rcases List.mem_cons.1 hmem with rfl | hmem
    · exact Bool.false_ne_true (h.start.symm.trans hname.1)
    · exact Bool.false_ne_true (h.identifier.symm.trans (hname.2 _ hmem))

theorem IsForeign.groupNumber? {c : Char} {name : List Char} (h : IsForeign c) (hmem : c ∈ name) :
    groupNumber? name = none := by
  have htrimmed : c ∈ Text.trim name := Text.mem_trim_of_not_blank hmem h.blank
  have hpieces {cs : List Char} (hcs : c ∈ cs) :
      ((Text.pieces (· = '_') cs).all fun part => !part.isEmpty && part.all Unicode.isDecimal) = false := by
    obtain ⟨piece, hpiece, hin⟩ := Text.exists_mem_pieces (p := (· = '_')) hcs (by simpa using h.underscore)
    rw [List.all_eq_false]
    refine ⟨piece, hpiece, ?_⟩
    rw [Bool.and_eq_true, List.all_eq_true]
    exact fun hall => Bool.false_ne_true (h.decimal.symm.trans (hall.2 _ hin))
  unfold Pattern.groupNumber?
  dsimp only
  split
  · next rest heq =>
    rw [heq] at htrimmed
    simp [hpieces ((List.mem_cons.1 htrimmed).resolve_left h.minus)]
  · next rest heq =>
    rw [heq] at htrimmed
    simp [hpieces ((List.mem_cons.1 htrimmed).resolve_left h.plus)]
  · simp [hpieces htrimmed]

/-! ## Escapes -/

theorem Agrees.takeHex (h : Respells r r') (start start' count : Nat) (letter : Char) :
    Agrees guarded (takeHex start count letter) (takeHex start' count letter) r r' := by
  refine .bind (.takeChars h (by decide) count) fun digits s s' hs => ?_
  refine .ite (fun _ => .refuse_bind _ _ _ _) fun _ => .pure hs _

theorem Agrees.takeCharacter (h : Respells r r') (start start' : Nat) (c : Char) :
    Agrees true (takeCharacter start c) (takeCharacter start' c) r r' := by
  unfold Pattern.takeCharacter
  split
  · exact .bind (.takeHex h _ _ _ _) fun _ _ _ hs => .pure hs _
  · exact .bind (.takeHex h _ _ _ _) fun _ _ _ hs => .pure hs _
  · exact .bind (.takeHex h _ _ _ _) fun _ _ _ hs => .ite (fun _ => .refuse_bind _ _ _ _) fun _ => .pure hs _
  · refine .bind (.accept h (by decide)) fun isOpen s s' hs => ?_
    refine .ite (fun _ => .here_bind (.refuse_bind _ _ _ _)) fun _ => ?_
    refine .bind (.takeName hs (by decide)) fun name t t' ht => ?_
    split
    · exact .pure ht _
    · exact .refuse _ _ _
  · exact .ite (fun _ => .refuse_bind _ _ _ _) fun _ => .pure h _

theorem Agrees.takeOctal (h : Respells r r') (start start' : Nat) (first : Char) :
    Agrees guarded (takeOctal start first) (takeOctal start' first) r r' := by
  refine .bind (.takeChars h (by decide) _) fun digits s s' hs => ?_
  exact .ite (fun _ => .refuse_bind _ _ _ _) fun _ => .pure hs _

theorem Agrees.takeMember (h : Respells r r') (start start' : Nat) (c : Char) :
    Agrees true (takeMember start c) (takeMember start' c) r r' := by
  unfold Pattern.takeMember
  split
  · exact .pure h _
  · exact .pure h _
  · exact .ite (fun _ => .bind (.takeOctal h _ _ _) fun _ _ _ hs => .pure hs _)
      fun _ => .bind (.takeCharacter h _ _ _) fun _ _ _ hs => .pure hs _

theorem Agrees.checkBehind (h : Respells r r') (number : Nat) :
    Agrees guarded (checkBehind number) (checkBehind number) r r' := by
  unfold Pattern.checkBehind
  refine .get_bind ?_
  rw [h.behind, h.isClosed]
  split
  · exact .pure h _
  · refine .ite (fun _ => .refuse_bind _ _ _ _) fun _ => .ite (fun _ => .refuse _ _ _) fun _ => .pure h _

theorem Agrees.takeNumbered (h : Respells r r') (start start' : Nat) (first : Char) :
    Agrees guarded (takeNumbered start first) (takeNumbered start' first) r r' := by
  unfold Pattern.takeNumbered
  refine .bind (.takeChars h (by decide) _) fun second s s' hs => ?_
  dsimp only
  refine .ite_bind (fun _ => .takeChars hs (by decide) _) (fun _ => .pure hs _) fun third t t' ht => ?_
  refine .ite (fun _ => .ite (fun _ => .refuse_bind _ _ _ _) fun _ => .pure ht _) fun _ => .get_bind ?_
  rw [ht.widths, ht.isClosed]
  refine .ite (fun _ => .refuse_bind _ _ _ _) fun _ => .ite (fun _ => .refuse_bind _ _ _ _) fun _ => ?_
  exact .bind (.checkBehind ht _) fun _ _ _ hu => .pure hu _

theorem Agrees.takeEscape (h : Respells r r') (start start' : Nat) (c : Char) :
    Agrees true (takeEscape start c) (takeEscape start' c) r r' := by
  unfold Pattern.takeEscape
  split
  · exact .pure h _
  · exact .pure h _
  · exact .pure h _
  · refine .ite (fun _ => .bind (.takeChars h (by decide) _) fun _ _ _ hs => .pure hs _) fun _ => ?_
    refine .ite (fun _ => .takeNumbered h _ _ _) fun _ => ?_
    exact .bind (.takeCharacter h _ _ _) fun _ _ _ hs => .pure hs _

/-! ## Sets -/

theorem Agrees.takeSetMember (h : Respells r r') (start start' : Nat) (lexeme : Lexeme) :
    Agrees true (takeSetMember start lexeme) (takeSetMember start' lexeme) r r' := by
  cases lexeme with
  | plain c => exact .pure h _
  | escaped c => exact .takeMember h start start' c

theorem Agrees.takeMembers (start start' : Nat) {fuel fuel' : Nat} (hfuel : fuel ≤ fuel')
    (members : List Member) (h : Respells r r') :
    Agrees true (takeMembers start members fuel) (takeMembers start' members fuel') r r' := by
  induction fuel generalizing fuel' members r r' with
  | zero => exact .refuse _ _ _
  | succ fuel ih =>
    obtain ⟨fuel', rfl⟩ : ∃ n, fuel' = n + 1 := ⟨fuel' - 1, by omega⟩
    have hfuel : fuel ≤ fuel' := by omega
    unfold Pattern.takeMembers
    refine .here_bind (.bind (.next h) fun lexeme? s s' hs => ?_)
    cases lexeme? with
    | none => exact .refuse _ _ _
    | some first =>
      refine .ite (fun _ => .pure hs _) fun _ => ?_
      refine .bind (.takeSetMember hs _ _ _) fun low t t' ht => ?_
      refine .bind (.accept ht (by decide)) fun isRange u u' hu => ?_
      refine .ite (fun _ => ih hfuel _ hu) fun _ => ?_
      refine .here_bind (.bind (.next hu) fun lexeme? v v' hv => ?_)
      split
      · exact .refuse _ _ _
      · exact .pure hv _
      · refine .bind (.takeSetMember hv _ _ _) fun high w w' hw => ?_
        dsimp only
        split
        · exact .ite (fun _ => .here_bind (.refuse_bind _ _ _ _)) fun _ => ih hfuel _ hw
        · exact .here_bind (.refuse _ _ _)

theorem Agrees.takeSet (h : Respells r r') (start start' : Nat) :
    Agrees true (takeSet start) (takeSet start') r r' := by
  refine .bind (.accept h (by decide)) fun negated s s' hs => .get_bind ?_
  exact .bind (.takeMembers start start' (Nat.succ_le_succ hs.length_le) [] hs) fun _ _ _ ht => .pure ht _

end

end ClassRules
end MarkupCleaner
